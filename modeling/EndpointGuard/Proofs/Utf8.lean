import Mathlib.Data.List.Basic
import Mathlib.Data.List.TakeWhile
import EndpointGuard.Text.Utf8

/-!
# Reading texts back from their bytes

How the bytes of a text in UTF-8 are read. `encode_char_cases` and `read_char_cases` say what one
character is written and read as. From the first follows that a text is read from its bytes
(`decode_utf8_bytes`), and from the second that characters of the ASCII range stand in what is read
exactly where their bytes stand (`count_decode_utf8`), also in bytes that spell no text.
`utf8_bytes_lt` adds that texts are ordered as their bytes are.
-/

namespace EndpointGuard.Text

/-- The bytes complete the character that the lead announces. -/
structure Lead.Accepts (lead : Lead) (found : List UInt8) : Prop where
  length_eq : found.length = lead.following
  head_tail : ∃ first more, found = first :: more ∧ lead.low ≤ first ∧ first ≤ lead.high ∧
    ∀ b ∈ more, isContinuation b = true

/-- The code point that a lead spells with the bytes that follow it. -/
def Lead.code (lead : Lead) (found : List UInt8) : Nat :=
  found.foldl (fun code b ↦ code * 64 + (b.toNat - 0x80)) lead.bits

/-- The bytes that continue a sequence, by their values. -/
theorem is_continuation_iff {b : UInt8} :
    isContinuation b = true ↔ 0x80 ≤ b.toNat ∧ b.toNat ≤ 0xbf := by
  simp [isContinuation, UInt8.le_iff_toNat_le]

/-- Which bytes lead a sequence, and what they announce. -/
theorem lead_eq (b : UInt8) :
    lead? b =
      if 0xc2 ≤ b.toNat ∧ b.toNat ≤ 0xdf then some ⟨1, 0x80, 0xbf, b.toNat - 0xc0⟩
      else if 0xe0 ≤ b.toNat ∧ b.toNat ≤ 0xef then
        some ⟨2, if b.toNat = 0xe0 then 0xa0 else 0x80, if b.toNat = 0xed then 0x9f else 0xbf,
          b.toNat - 0xe0⟩
      else if 0xf0 ≤ b.toNat ∧ b.toNat ≤ 0xf4 then
        some ⟨3, if b.toNat = 0xf0 then 0x90 else 0x80, if b.toNat = 0xf4 then 0x8f else 0xbf,
          b.toNat - 0xf0⟩
      else none := by
  unfold lead?
  simp only [UInt8.le_iff_toNat_le, ← UInt8.toNat_inj, Bool.and_eq_true, decide_eq_true_eq,
    UInt8.reduceToNat]
  grind

/-- The bytes of a character, by the range of its code point. -/
theorem encode_char_eq (c : Char) :
    String.utf8EncodeChar c =
      if c.toNat < 0x80 then [UInt8.ofNat c.toNat]
      else if c.toNat < 0x800 then
        [UInt8.ofNat (c.toNat / 64 + 0xc0), UInt8.ofNat (c.toNat % 64 + 0x80)]
      else if c.toNat < 0x10000 then
        [UInt8.ofNat (c.toNat / 4096 + 0xe0), UInt8.ofNat (c.toNat / 64 % 64 + 0x80),
          UInt8.ofNat (c.toNat % 64 + 0x80)]
      else
        [UInt8.ofNat (c.toNat / 262144 + 0xf0), UInt8.ofNat (c.toNat / 4096 % 64 + 0x80),
          UInt8.ofNat (c.toNat / 64 % 64 + 0x80), UInt8.ofNat (c.toNat % 64 + 0x80)] := by
  have hvalid : c.toNat < 0xd800 ∨ 0xdfff < c.toNat ∧ c.toNat < 0x110000 := c.valid
  have hcode : c.val.toNat = c.toNat := rfl
  unfold String.utf8EncodeChar
  simp only [hcode, ← Nat.lt_succ_iff, Nat.succ_eq_add_one, Nat.reduceAdd]
  split_ifs with hone htwo hthree
  · rfl
  · rw [Nat.mod_eq_of_lt (show c.toNat / 64 < 32 by omega)]
  · rw [Nat.mod_eq_of_lt (show c.toNat / 4096 < 16 by omega)]
  · rw [Nat.mod_eq_of_lt (show c.toNat / 262144 < 8 by omega)]

/-- A small number is the value of its byte. -/
theorem to_nat_of_nat {n : Nat} (h : n < 256) : (UInt8.ofNat n).toNat = n :=
  UInt8.toNat_ofNat_of_lt' h

/-- A valid code point is the code point of its character. -/
theorem to_nat_char_of_nat {n : Nat} (h : n.isValidChar) : (Char.ofNat n).toNat = n := by
  rw [Char.ofNat, dif_pos h]
  rfl

/-- A character is one byte, or a lead with the bytes that complete it. -/
theorem encode_char_cases (c : Char) :
    c.toNat < 0x80 ∧ String.utf8EncodeChar c = [UInt8.ofNat c.toNat] ∨
      ∃ b lead found, lead? b = some lead ∧ lead.Accepts found ∧ lead.code found = c.toNat ∧
        String.utf8EncodeChar c = b :: found := by
  have hvalid : c.toNat < 0xd800 ∨ 0xdfff < c.toNat ∧ c.toNat < 0x110000 := c.valid
  rw [encode_char_eq]
  split_ifs with hone htwo hthree
  · exact Or.inl ⟨hone, rfl⟩
  · have hb := @to_nat_of_nat (c.toNat / 64 + 0xc0) (by omega)
    refine Or.inr ⟨_, ⟨1, 0x80, 0xbf, c.toNat / 64⟩, _, ?_, ⟨rfl, _, _, rfl, ?_, ?_, ?_⟩, ?_, rfl⟩
    · rw [lead_eq, hb, if_pos (by omega)]
      simp
    · simp [UInt8.le_iff_toNat_le]
      omega
    · simp [UInt8.le_iff_toNat_le]
      omega
    · simp
    · simp [Lead.code]
      omega
  · have hb := @to_nat_of_nat (c.toNat / 4096 + 0xe0) (by omega)
    refine Or.inr ⟨_, ⟨2, if c.toNat / 4096 = 0 then 0xa0 else 0x80,
      if c.toNat / 4096 = 0xd then 0x9f else 0xbf, c.toNat / 4096⟩, _, ?_,
      ⟨rfl, _, _, rfl, ?_, ?_, ?_⟩, ?_, rfl⟩
    · rw [lead_eq, hb, if_neg (by omega), if_pos (by omega)]
      simp
    · dsimp only
      split_ifs <;> simp [UInt8.le_iff_toNat_le] <;> omega
    · dsimp only
      split_ifs <;> simp [UInt8.le_iff_toNat_le] <;> omega
    · simp [is_continuation_iff]
      omega
    · simp [Lead.code]
      omega
  · have hb := @to_nat_of_nat (c.toNat / 262144 + 0xf0) (by omega)
    refine Or.inr ⟨_, ⟨3, if c.toNat / 262144 = 0 then 0x90 else 0x80,
      if c.toNat / 262144 = 4 then 0x8f else 0xbf, c.toNat / 262144⟩, _, ?_,
      ⟨rfl, _, _, rfl, ?_, ?_, ?_⟩, ?_, rfl⟩
    · rw [lead_eq, hb, if_neg (by omega), if_neg (by omega), if_pos (by omega)]
      simp
    · dsimp only
      split_ifs <;> simp [UInt8.le_iff_toNat_le] <;> omega
    · dsimp only
      split_ifs <;> simp [UInt8.le_iff_toNat_le] <;> omega
    · simp [is_continuation_iff]
      omega
    · simp [Lead.code]
      omega

/-- What completes a character is what is read behind its lead, whatever follows. -/
theorem Lead.Accepts.matching_append {lead : Lead} {found : List UInt8} (h : lead.Accepts found)
    (rest : List UInt8) : lead.matching (found ++ rest) = found := by
  obtain ⟨hlength, first, more, rfl, hlow, hhigh, hmore⟩ := h
  unfold Lead.matching
  rw [← hlength, List.take_left]
  simp only [hlow, hhigh, decide_true, Bool.and_self, if_true, List.cons.injEq, true_and]
  exact List.takeWhile_eq_self_iff.mpr hmore

/-- What is read behind a lead stands at the beginning of the rest. -/
theorem Lead.matching_prefix (lead : Lead) (rest : List UInt8) : lead.matching rest <+: rest := by
  refine List.IsPrefix.trans ?_ (List.take_prefix lead.following rest)
  unfold Lead.matching
  cases rest.take lead.following with
  | nil => exact List.prefix_rfl
  | cons b more =>
      dsimp only
      split
      · exact (List.prefix_cons_inj b).mpr (List.takeWhile_prefix _)
      · exact List.nil_prefix

/-- Nothing but bytes above the ASCII range is read behind a lead. -/
theorem Lead.high_of_mem_matching {lead : Lead} {rest : List UInt8} (hlow : 0x80 ≤ lead.low.toNat)
    {b : UInt8} (hb : b ∈ lead.matching rest) : 0x80 ≤ b.toNat := by
  unfold Lead.matching at hb
  split at hb
  · cases hb
  · rename_i first more _
    split at hb
    · rename_i hfirst
      rw [Bool.and_eq_true, decide_eq_true_eq, UInt8.le_iff_toNat_le] at hfirst
      rcases List.mem_cons.mp hb with rfl | hmore
      · omega
      · exact (is_continuation_iff.mp (List.mem_takeWhile_imp hmore)).1
    · cases hb

/-- As many bytes as a lead announces complete the character. -/
theorem Lead.accepts_matching {lead : Lead} {rest : List UInt8} (hpos : 0 < lead.following)
    (hlength : (lead.matching rest).length = lead.following) : lead.Accepts (lead.matching rest) := by
  refine ⟨hlength, ?_⟩
  unfold Lead.matching at hlength ⊢
  split at hlength
  · rw [← hlength] at hpos
    cases hpos
  · rename_i first more _
    split at hlength
    · rename_i hfirst
      rw [Bool.and_eq_true, decide_eq_true_eq, decide_eq_true_eq] at hfirst
      simp only [hfirst, decide_true, Bool.and_self, if_true] at hlength ⊢
      exact ⟨first, _, rfl, hfirst.1, hfirst.2, fun b hb ↦ List.mem_takeWhile_imp hb⟩
    · rw [← hlength] at hpos
      cases hpos

/-- A lead announces one to three bytes, and with bytes that complete it spells a code point above
the ASCII range. -/
theorem lead_spec {b : UInt8} {lead : Lead} (h : lead? b = some lead) :
    0x80 ≤ b.toNat ∧ 0x80 ≤ lead.low.toNat ∧ 0 < lead.following ∧
      ∀ found, lead.Accepts found → 0x80 ≤ lead.code found ∧ (lead.code found).isValidChar := by
  rw [lead_eq] at h
  split at h
  · cases h
    refine ⟨by omega, by simp, by simp, ?_⟩
    rintro _ ⟨hlength, first, more, rfl, hlow, hhigh, -⟩
    obtain rfl : more = [] := by simpa using hlength
    simp only [UInt8.le_iff_toNat_le, UInt8.reduceToNat] at hlow hhigh
    simp only [Lead.code, List.foldl_cons, List.foldl_nil, Nat.isValidChar]
    omega
  · split at h
    · cases h
      refine ⟨by omega, by dsimp only; split <;> simp, by simp, ?_⟩
      rintro _ ⟨hlength, first, more, rfl, hlow, hhigh, hmore⟩
      obtain ⟨second, rfl⟩ : ∃ second, more = [second] :=
        List.length_eq_one_iff.mp (by simpa using hlength)
      have hsecond := is_continuation_iff.mp (hmore second (by simp))
      simp only [UInt8.le_iff_toNat_le] at hlow hhigh
      simp only [Lead.code, List.foldl_cons, List.foldl_nil, Nat.isValidChar]
      split_ifs at hlow hhigh <;> simp only [UInt8.reduceToNat] at hlow hhigh <;> omega
    · split at h
      · cases h
        refine ⟨by omega, by dsimp only; split <;> simp, by simp, ?_⟩
        rintro _ ⟨hlength, first, more, rfl, hlow, hhigh, hmore⟩
        obtain ⟨second, third, rfl⟩ : ∃ second third, more = [second, third] :=
          List.length_eq_two.mp (by simpa using hlength)
        have hsecond := is_continuation_iff.mp (hmore second (by simp))
        have hthird := is_continuation_iff.mp (hmore third (by simp))
        simp only [UInt8.le_iff_toNat_le] at hlow hhigh
        simp only [Lead.code, List.foldl_cons, List.foldl_nil, Nat.isValidChar]
        split_ifs at hlow hhigh <;> simp only [UInt8.reduceToNat] at hlow hhigh <;> omega
      · cases h

/-- The first of a list of bytes is read as a character of the ASCII range, or as one above it
together with bytes above it. -/
theorem read_char_cases (b : UInt8) (rest : List UInt8) :
    b.toNat < 0x80 ∧ readChar b rest = (Char.ofNat b.toNat, 0) ∨
      0x80 ≤ b.toNat ∧ 0x80 ≤ (readChar b rest).1.toNat ∧
        ∀ other ∈ rest.take (readChar b rest).2, 0x80 ≤ other.toNat := by
  unfold readChar
  by_cases hascii : b < 0x80
  · rw [if_pos hascii]
    exact Or.inl ⟨hascii, rfl⟩
  · rw [if_neg hascii]
    rw [UInt8.lt_iff_toNat_lt, not_lt] at hascii
    refine Or.inr ⟨hascii, ?_⟩
    cases hlead : lead? b with
    | none => exact ⟨show 0x80 ≤ '\ufffd'.toNat by decide, by simp⟩
    | some lead =>
        obtain ⟨_, hlow, hpos, hcode⟩ := lead_spec hlead
        have htake : ∀ other ∈ rest.take (lead.matching rest).length, 0x80 ≤ other.toNat := by
          rw [← List.prefix_iff_eq_take.mp (lead.matching_prefix rest)]
          exact fun other hother ↦ Lead.high_of_mem_matching hlow hother
        dsimp only
        split
        · rename_i hlength
          obtain ⟨hhigh, hvalid⟩ := hcode _ (Lead.accepts_matching hpos hlength)
          exact ⟨(to_nat_char_of_nat hvalid).symm ▸ hhigh, htake⟩
        · exact ⟨show 0x80 ≤ '\ufffd'.toNat by decide, htake⟩

/-- Passing over bytes is dropping them. -/
theorem decode_from_drop (skipped : Nat) (bytes : List UInt8) :
    decodeFrom skipped bytes = decodeFrom 0 (bytes.drop skipped) := by
  induction bytes generalizing skipped with
  | nil => cases skipped <;> rfl
  | cons b rest ih =>
      cases skipped with
      | zero => rfl
      | succ skipped => exact ih skipped

/-- Reading begins with the first character and goes on behind the bytes that it takes. -/
theorem decode_from_cons (b : UInt8) (rest : List UInt8) :
    decodeFrom 0 (b :: rest) =
      (readChar b rest).1 :: decodeFrom 0 (rest.drop (readChar b rest).2) := by
  rw [← decode_from_drop]
  rfl

/-- A character of the ASCII range is read as often as its byte occurs. -/
theorem count_decode_from {c : Char} (hc : c.toNat < 0x80) (bytes : List UInt8) :
    (decodeFrom 0 bytes).count c = bytes.count (UInt8.ofNat c.toNat) := by
  induction hlength : bytes.length using Nat.strong_induction_on generalizing bytes with
  | _ n ih =>
    cases bytes with
    | nil => rfl
    | cons b rest =>
        have hrest := ih (rest.drop (readChar b rest).2).length (by simp at *; omega) _ rfl
        have hbyte : (UInt8.ofNat c.toNat).toNat = c.toNat := to_nat_of_nat (by omega)
        rw [decode_from_cons, List.count_cons, hrest]
        rcases read_char_cases b rest with ⟨hb, hread⟩ | ⟨hb, hread, hskipped⟩
        · have hsame : Char.ofNat b.toNat = c ↔ b = UInt8.ofNat c.toNat := by
            constructor
            · rintro rfl
              rw [to_nat_char_of_nat (Or.inl (by omega)), UInt8.ofNat_toNat]
            · rintro rfl
              rw [hbyte, Char.ofNat_toNat]
          rw [hread, List.drop_zero, List.count_cons]
          simp [hsame]
        · -- Neither the character nor a byte that it takes is in the ASCII range.
          have hnone : (b :: rest.take (readChar b rest).2).count (UInt8.ofNat c.toNat) = 0 := by
            refine List.count_eq_zero.mpr fun hmem ↦ ?_
            rcases List.mem_cons.mp hmem with h | h
            · rw [← h] at hb
              omega
            · have hhigh := hskipped _ h
              omega
          have hchar : ((readChar b rest).1 == c) = false := by
            rw [beq_eq_false_iff_ne]
            rintro rfl
            omega
          have hsplit : b :: rest =
              (b :: rest.take (readChar b rest).2) ++ rest.drop (readChar b rest).2 := by
            simp
          rw [hsplit, List.count_append, hnone, hchar]
          simp

/-- What a lead and the bytes that complete its character spell is read as that character. -/
theorem read_char_of_accepts {b : UInt8} {lead : Lead} {found : List UInt8}
    (hlead : lead? b = some lead) (hfound : lead.Accepts found) (rest : List UInt8) :
    readChar b (found ++ rest) = (Char.ofNat (lead.code found), found.length) := by
  have hb : ¬ b < 0x80 := by
    rw [UInt8.lt_iff_toNat_lt, not_lt]
    exact (lead_spec hlead).1
  unfold readChar
  rw [if_neg hb, hlead]
  dsimp only
  rw [hfound.matching_append, if_pos hfound.length_eq]
  rfl

/-- A character is read from its bytes, whatever follows them. -/
theorem decode_from_encode_char (c : Char) (rest : List UInt8) :
    decodeFrom 0 (String.utf8EncodeChar c ++ rest) = c :: decodeFrom 0 rest := by
  rcases encode_char_cases c with ⟨hc, hbytes⟩ | ⟨b, lead, found, hlead, hfound, hcode, hbytes⟩
  · have hbyte : (UInt8.ofNat c.toNat).toNat = c.toNat := to_nat_of_nat (by omega)
    rw [hbytes, List.singleton_append, decode_from_cons]
    rcases read_char_cases (UInt8.ofNat c.toNat) rest with ⟨_, hread⟩ | ⟨hhigh, _⟩
    · rw [hread, hbyte, Char.ofNat_toNat, List.drop_zero]
    · omega
  · rw [hbytes, List.cons_append, decode_from_cons, read_char_of_accepts hlead hfound, hcode,
      Char.ofNat_toNat, List.drop_left]

/-- A text is read from its bytes. -/
theorem decode_utf8_bytes (text : String) : decodeUtf8 (utf8Bytes text) = text := by
  have hchars : ∀ chars : List Char,
      decodeFrom 0 (chars.flatMap String.utf8EncodeChar) = chars := by
    intro chars
    induction chars with
    | nil => rfl
    | cons c chars ih => rw [List.flatMap_cons, decode_from_encode_char, ih]
  rw [decodeUtf8, utf8Bytes, hchars, String.ofList_toList]

/-- A character of the ASCII range occurs in what is read as often as its byte in the bytes. -/
theorem count_decode_utf8 {c : Char} (hc : c.toNat < 0x80) (bytes : List UInt8) :
    (decodeUtf8 bytes).toList.count c = bytes.count (UInt8.ofNat c.toNat) := by
  rw [decodeUtf8, String.toList_ofList, count_decode_from hc]

/-- A character of the ASCII range occurs in a text as often as its byte in the bytes of the text. -/
theorem count_utf8_bytes {c : Char} (hc : c.toNat < 0x80) (text : String) :
    (utf8Bytes text).count (UInt8.ofNat c.toNat) = text.toList.count c := by
  rw [← count_decode_utf8 hc, decode_utf8_bytes]

/-- The bytes of the lower of two characters come first in the order of bytes. -/
theorem encode_char_lt {c d : Char} (h : c < d) (left right : List UInt8) :
    String.utf8EncodeChar c ++ left < String.utf8EncodeChar d ++ right := by
  have hcode : c.toNat < d.toNat := h
  have hvalid : d.toNat < 0x110000 := by
    rcases d.valid with hlow | hhigh
    · exact Nat.lt_trans hlow (by decide)
    · exact hhigh.2
  rw [encode_char_eq, encode_char_eq]
  split_ifs <;>
    simp (disch := omega) only [List.cons_append, List.nil_append, List.cons_lt_cons_iff,
      UInt8.lt_iff_toNat_lt, ← UInt8.toNat_inj, to_nat_of_nat] <;>
    omega

/-- Texts are ordered as their bytes are. -/
theorem utf8_bytes_lt {first second : String} (h : first < second) :
    utf8Bytes first < utf8Bytes second := by
  have hchars : ∀ left right : List Char, left < right →
      left.flatMap String.utf8EncodeChar < right.flatMap String.utf8EncodeChar := by
    intro left
    induction left with
    | nil =>
        intro right hright
        cases right with
        | nil => exact absurd hright (List.not_lt_nil _)
        | cons d right =>
            rw [List.flatMap_nil, List.flatMap_cons]
            rcases encode_char_cases d with ⟨_, hbytes⟩ | ⟨b, _, found, _, _, _, hbytes⟩ <;>
              rw [hbytes] <;> exact List.nil_lt_cons _ _
    | cons c left ih =>
        intro right hright
        cases right with
        | nil => exact absurd hright (List.not_lt_nil _)
        | cons d right =>
            rw [List.flatMap_cons, List.flatMap_cons]
            rcases List.cons_lt_cons_iff.mp hright with hcd | ⟨rfl, hrest⟩
            · exact encode_char_lt hcd _ _
            · exact List.append_left_lt (ih right hrest)
  exact hchars first.toList second.toList h

end EndpointGuard.Text
