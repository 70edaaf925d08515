import EndpointGuard.Proofs.Utf8
import EndpointGuard.Text.Percent

/-!
# What percent-decoding does to bytes

`Decodes` describes decoding as a walk over the bytes that takes a triple or keeps a byte, and
`decodes_triples` says that `decodeTriples` is that walk. What follows is by induction on the walk:
bytes without a percent sign stay as they are, a byte that stays encoded is never added
(`count_decode_triples`), and any other byte that no triple is written with stands in the result
when it stood there before or when a triple spells it (`mem_decode_triples_iff`).
-/

namespace EndpointGuard.Text

/-- Bytes and what they are decoded to. A byte is only kept where no triple begins that could be
decoded. -/
inductive Decodes (kept : UInt8 → Bool) : List UInt8 → List UInt8 → Prop where
  | nil : Decodes kept [] []
  | triple {high low byte more decoded} :
      hexPair? high low = some byte → kept byte = false → Decodes kept more decoded →
      Decodes kept (0x25 :: high :: low :: more) (byte :: decoded)
  | copied {b rest decoded} :
      (∀ high low byte, [0x25, high, low] <+: b :: rest → hexPair? high low = some byte →
        kept byte = true) →
      Decodes kept rest decoded → Decodes kept (b :: rest) (b :: decoded)

variable {kept : UInt8 → Bool}

/-- A triple is decoded to the byte that its digits denote. -/
theorem decode_triples_triple {high low byte : UInt8} (hpair : hexPair? high low = some byte)
    (hkept : kept byte = false) (more : List UInt8) :
    decodeTriples kept (0x25 :: high :: low :: more) = byte :: decodeTriples kept more := by
  rw [decodeTriples]
  simp [hpair, hkept]

/-- A byte where no triple begins is kept. -/
theorem decode_triples_copied {b : UInt8} {rest : List UInt8}
    (h : ∀ high low byte, [0x25, high, low] <+: b :: rest → hexPair? high low = some byte →
      kept byte = true) :
    decodeTriples kept (b :: rest) = b :: decodeTriples kept rest := by
  rcases rest with _ | ⟨high, _ | ⟨low, more⟩⟩
  · rfl
  · rfl
  · rw [decodeTriples]
    by_cases hb : b = 0x25
    · cases hpair : hexPair? high low with
      | none => simp
      | some byte =>
          have hkept := h high low byte (by simp [hb]) hpair
          simp [hb, hkept]
    · simp [hb]

/-- Decoding is the walk. -/
theorem decodes_triples (kept : UInt8 → Bool) (bytes : List UInt8) :
    Decodes kept bytes (decodeTriples kept bytes) := by
  induction hlength : bytes.length using Nat.strong_induction_on generalizing bytes with
  | _ n ih =>
    cases bytes with
    | nil => exact .nil
    | cons b rest =>
        rw [List.length_cons] at hlength
        by_cases h : ∃ high low byte, [0x25, high, low] <+: b :: rest ∧
            hexPair? high low = some byte ∧ kept byte = false
        · obtain ⟨high, low, byte, ⟨more, hmore⟩, hpair, hkept⟩ := h
          obtain ⟨rfl, rfl⟩ := List.cons.inj hmore
          simp only [List.append_eq, List.cons_append, List.nil_append] at hlength ⊢
          rw [decode_triples_triple hpair hkept]
          exact .triple hpair hkept (ih more.length (by simp at hlength; omega) more rfl)
        · have hcopied : ∀ high low byte, [0x25, high, low] <+: b :: rest →
              hexPair? high low = some byte → kept byte = true := by
            intro high low byte hprefix hpair
            cases hkept : kept byte with
            | true => rfl
            | false => exact absurd ⟨high, low, byte, hprefix, hpair, hkept⟩ h
          rw [decode_triples_copied hcopied]
          exact .copied hcopied (ih rest.length (by omega) rest rfl)

/-- Bytes without a percent sign stay as they are. -/
theorem decode_triples_eq_self {bytes : List UInt8} (h : 0x25 ∉ bytes) :
    decodeTriples kept bytes = bytes := by
  have hdecodes := decodes_triples kept bytes
  generalize decodeTriples kept bytes = decoded at hdecodes
  induction hdecodes with
  | nil => rfl
  | triple => exact absurd List.mem_cons_self h
  | copied _ _ ih => rw [ih fun hmem ↦ h (List.mem_cons_of_mem _ hmem)]

/-- A byte without a value as a digit is none of the two digits of a triple. -/
theorem ne_of_hex_byte_none {x high low byte : UInt8} (hx : hexByte? x = none)
    (hpair : hexPair? high low = some byte) : high ≠ x ∧ low ≠ x := by
  unfold hexPair? at hpair
  constructor <;> rintro rfl <;> simp [hx] at hpair

/-- A byte that stays encoded occurs as often as before, unless triples are written with it. -/
theorem count_decode_triples {x : UInt8} (hkept : kept x = true) (hx : hexByte? x = none)
    (hpercent : x ≠ 0x25) (bytes : List UInt8) :
    (decodeTriples kept bytes).count x = bytes.count x := by
  have hdecodes := decodes_triples kept bytes
  generalize decodeTriples kept bytes = decoded at hdecodes
  induction hdecodes with
  | nil => rfl
  | @triple high low byte more decoded hpair hbyte _ ih =>
      obtain ⟨hhigh, hlow⟩ := ne_of_hex_byte_none hx hpair
      have hne : byte ≠ x := by
        rintro rfl
        rw [hkept] at hbyte
        cases hbyte
      rw [List.count_cons_of_ne hne, ih, List.count_cons_of_ne hpercent.symm,
        List.count_cons_of_ne hhigh, List.count_cons_of_ne hlow]
  | copied _ _ ih => rw [List.count_cons, List.count_cons, ih]

/-- A byte that triples are not written with, and that does not stay encoded, is in the result when
it was there before or when a triple denotes it. -/
theorem mem_decode_triples_iff {x : UInt8} (hkept : kept x = false) (hx : hexByte? x = none)
    (hpercent : x ≠ 0x25) (bytes : List UInt8) :
    x ∈ decodeTriples kept bytes ↔
      x ∈ bytes ∨ ∃ high low, hexPair? high low = some x ∧ [0x25, high, low] <:+: bytes := by
  have hdecodes := decodes_triples kept bytes
  generalize decodeTriples kept bytes = decoded at hdecodes
  induction hdecodes with
  | nil => simp
  | @triple high low byte more decoded hpair _ _ ih =>
      obtain ⟨hhigh, hlow⟩ := ne_of_hex_byte_none hx hpair
      obtain ⟨hhighPercent, hlowPercent⟩ :=
        ne_of_hex_byte_none (show hexByte? 0x25 = none from rfl) hpair
      -- No triple begins at the digits of another one.
      simp only [List.mem_cons, ih, List.infix_cons_iff, List.cons_prefix_cons, List.nil_prefix,
        and_true, true_and, false_and, false_or, hpercent, hhigh.symm, hlow.symm,
        hhighPercent.symm, hlowPercent.symm]
      constructor
      · rintro (rfl | hmore | ⟨first, second, hfirst, hmore⟩)
        · exact Or.inr ⟨high, low, hpair, Or.inl ⟨rfl, rfl⟩⟩
        · exact Or.inl hmore
        · exact Or.inr ⟨first, second, hfirst, Or.inr hmore⟩
      · rintro (hmore | ⟨first, second, hfirst, ⟨rfl, rfl⟩ | hmore⟩)
        · exact Or.inr (Or.inl hmore)
        · exact Or.inl (Option.some.inj (hfirst.symm.trans hpair))
        · exact Or.inr (Or.inr ⟨first, second, hfirst, hmore⟩)
  | @copied b rest decoded hcopied _ ih =>
      simp only [List.mem_cons, ih, or_assoc]
      refine or_congr_right (or_congr_right ?_)
      refine exists_congr fun high ↦ exists_congr fun low ↦ and_congr_right fun hpair ↦ ?_
      have hfirst : ¬ [0x25, high, low] <+: b :: rest := by
        intro hprefix
        have hstays := hcopied high low x hprefix hpair
        rw [hkept] at hstays
        cases hstays
      rw [List.infix_cons_iff, or_iff_right hfirst]

/-- The bytes of a text without percent signs hold none. -/
theorem percent_not_mem_bytes {text : String} (h : '%' ∉ text.toList) :
    0x25 ∉ utf8Bytes text := by
  have hcount := count_utf8_bytes (show '%'.toNat < 0x80 by decide) text
  rw [List.count_eq_zero.mpr h] at hcount
  exact List.count_eq_zero.mp hcount

/-- A character of the ASCII range that is no percent sign stays in front of what is decoded. -/
theorem decode_percent_cons {c : Char} (hc : c.toNat < 0x80) (hpercent : c ≠ '%')
    (rest : List Char) :
    decodePercent kept (String.ofList (c :: rest)) =
      String.ofList (c :: (decodePercent kept (String.ofList rest)).toList) := by
  have hbytes : String.utf8EncodeChar c = [UInt8.ofNat c.toNat] := by
    rw [encode_char_eq, if_pos hc]
  have hfirst : UInt8.ofNat c.toNat ≠ 0x25 := by
    intro h
    have hcode : c.toNat = '%'.toNat := by
      have := congrArg UInt8.toNat h
      rwa [to_nat_of_nat (by omega)] at this
    exact hpercent (Char.toNat_inj.mp hcode)
  have hcopied : decodeTriples kept (UInt8.ofNat c.toNat :: utf8Bytes (String.ofList rest)) =
      UInt8.ofNat c.toNat :: decodeTriples kept (utf8Bytes (String.ofList rest)) := by
    refine decode_triples_copied fun high low byte hprefix _ ↦ ?_
    exact absurd (List.cons_prefix_cons.mp hprefix).1.symm hfirst
  have hcons : utf8Bytes (String.ofList (c :: rest)) =
      UInt8.ofNat c.toNat :: utf8Bytes (String.ofList rest) := by
    simp [utf8Bytes, hbytes]
  rw [decodePercent, hcons, hcopied, decodeUtf8, ← List.singleton_append, ← hbytes,
    decode_from_encode_char, decodePercent, decodeUtf8, String.toList_ofList]

/-- A text without percent signs is decoded to itself. -/
theorem decode_percent_eq_self {text : String} (h : '%' ∉ text.toList) :
    decodePercent kept text = text := by
  rw [decodePercent, decode_triples_eq_self (percent_not_mem_bytes h), decode_utf8_bytes]

end EndpointGuard.Text
