import EndpointGuard.Http.Uri
import EndpointGuard.Proofs.AuditTrail
import EndpointGuard.Proofs.Percent

/-!
# Percent-encoded request targets

A path can be written in many ways, since each of its bytes may be percent-encoded. `Spells` lists
the ways in which a target spells the bytes of a path, and `Gate.percent_encoding_transparent` says
that the gate does with each of them what it does with the path itself. Slashes are the exception:
`count_slash_matched_path` says that decoding adds none and takes none away.
-/

namespace EndpointGuard

namespace Http

open Text (decodeTriples hexPair? hexByte? keptInPath utf8Bytes)

/-- The character is the hexadecimal digit of a value, in either case. -/
def IsHexDigit (value : Nat) (c : Char) : Prop :=
  value < 16 ∧ (c = Nat.digitChar value ∨ c = (Nat.digitChar value).toUpper)

/-- `Spells bytes written` says that the target `written` spells a path with these bytes: a byte
stands for itself where a path may hold its character, or it is percent-encoded. The slash and the
plus sign are only written as themselves. -/
inductive Spells : List UInt8 → List Char → Prop where
  | nil : Spells [] []
  | plain {c bytes written} :
      isPathChar c = true → endsPath c = false → Spells bytes written →
      Spells (UInt8.ofNat c.toNat :: bytes) (c :: written)
  | triple {byte high low bytes written} :
      byte ≠ 0x2f → byte ≠ 0x2b →
      IsHexDigit (byte.toNat / 16) high → IsHexDigit (byte.toNat % 16) low →
      Spells bytes written → Spells (byte :: bytes) ('%' :: high :: low :: written)

/-- Which bytes have a value as a hexadecimal digit. -/
theorem hex_value_eq_some_iff {b v : UInt8} :
    hexByte? b = some v ↔ ∃ c, IsHexDigit v.toNat c ∧ b = UInt8.ofNat c.toNat := by
  constructor
  · have hread : ∀ n < 256, (hexByte? (UInt8.ofNat n)).all (fun v ↦ decide (v.toNat < 16 ∧
        (UInt8.ofNat n = UInt8.ofNat (Nat.digitChar v.toNat).toNat ∨
          UInt8.ofNat n = UInt8.ofNat (Nat.digitChar v.toNat).toUpper.toNat))) = true := by
      decide +kernel
    intro h
    rw [← UInt8.ofNat_toNat (x := b)] at h ⊢
    have hdigit := hread b.toNat b.toNat_lt
    rw [h, Option.all_some, decide_eq_true_iff] at hdigit
    rcases hdigit with ⟨hv, hsmall | hcapital⟩
    · exact ⟨_, ⟨hv, Or.inl rfl⟩, hsmall⟩
    · exact ⟨_, ⟨hv, Or.inr rfl⟩, hcapital⟩
  · have hdigits : ∀ n < 16,
        hexByte? (UInt8.ofNat (Nat.digitChar n).toNat) = some (UInt8.ofNat n) ∧
          hexByte? (UInt8.ofNat (Nat.digitChar n).toUpper.toNat) = some (UInt8.ofNat n) := by
      decide +kernel
    rintro ⟨c, ⟨hv, rfl | rfl⟩, rfl⟩
    · rw [(hdigits v.toNat hv).1, UInt8.ofNat_toNat]
    · rw [(hdigits v.toNat hv).2, UInt8.ofNat_toNat]

/-- The digits that denote a byte are those of its two halves. -/
theorem hex_pair_eq_some_iff {high low byte : UInt8} :
    hexPair? high low = some byte ↔
      ∃ first second, IsHexDigit (byte.toNat / 16) first ∧ IsHexDigit (byte.toNat % 16) second ∧
        high = UInt8.ofNat first.toNat ∧ low = UInt8.ofNat second.toNat := by
  have hlt := byte.toNat_lt
  constructor
  · intro h
    unfold hexPair? at h
    split at h
    · rename_i upper lower hupper hlower
      obtain ⟨first, hfirst, hhigh⟩ := hex_value_eq_some_iff.mp hupper
      obtain ⟨second, hsecond, hlow⟩ := hex_value_eq_some_iff.mp hlower
      have hbyte : byte.toNat = upper.toNat * 16 + lower.toNat := by
        rw [← Option.some.inj h, UInt8.toNat_add, UInt8.toNat_mul]
        simp only [UInt8.reduceToNat]
        have := hfirst.1
        have := hsecond.1
        omega
      have hhigher : byte.toNat / 16 = upper.toNat := by
        have := hsecond.1
        omega
      have hlower : byte.toNat % 16 = lower.toNat := by
        have := hsecond.1
        omega
      exact ⟨first, second, hhigher ▸ hfirst, hlower ▸ hsecond, hhigh, hlow⟩
    · cases h
  · rintro ⟨first, second, hfirst, hsecond, rfl, rfl⟩
    have hhigher : (UInt8.ofNat (byte.toNat / 16)).toNat = byte.toNat / 16 :=
      Text.to_nat_of_nat (by omega)
    have hlower : (UInt8.ofNat (byte.toNat % 16)).toNat = byte.toNat % 16 :=
      Text.to_nat_of_nat (by omega)
    have hbyte : UInt8.ofNat (byte.toNat / 16) * 16 + UInt8.ofNat (byte.toNat % 16) = byte := by
      rw [← UInt8.toNat_inj, UInt8.toNat_add, UInt8.toNat_mul, hhigher, hlower]
      simp only [UInt8.reduceToNat]
      omega
    rw [hexPair?, hex_value_eq_some_iff.mpr ⟨first, hhigher.symm ▸ hfirst, rfl⟩,
      hex_value_eq_some_iff.mpr ⟨second, hlower.symm ▸ hsecond, rfl⟩]
    exact congrArg some hbyte

/-- A hexadecimal digit may stand in a path. -/
theorem IsHexDigit.path_char {value : Nat} {c : Char} (h : IsHexDigit value c) :
    isPathChar c = true ∧ endsPath c = false := by
  have hdigits : ∀ value < 16,
      (isPathChar (Nat.digitChar value) = true ∧ endsPath (Nat.digitChar value) = false) ∧
        isPathChar (Nat.digitChar value).toUpper = true ∧
          endsPath (Nat.digitChar value).toUpper = false := by
    decide +kernel
  obtain ⟨hvalue, rfl | rfl⟩ := h
  · exact (hdigits value hvalue).1
  · exact (hdigits value hvalue).2

/-- A character that may stand in a path is of the ASCII range. -/
theorem path_char_lt {c : Char} (h : isPathChar c = true) : 0x20 < c.toNat ∧ c.toNat < 0x7f := by
  simp only [isPathChar, Bool.and_eq_true, decide_eq_true_eq] at h
  omega

/-- A hexadecimal digit is of the ASCII range. -/
theorem IsHexDigit.lt {value : Nat} {c : Char} (h : IsHexDigit value c) : c.toNat < 0x80 := by
  have := path_char_lt h.path_char.1
  omega

/-- A character that may stand in a path is one byte. -/
theorem encode_path_char {c : Char} (h : isPathChar c = true) :
    String.utf8EncodeChar c = [UInt8.ofNat c.toNat] := by
  have hc : c.toNat < 0x80 := by
    have := path_char_lt h
    omega
  rw [Text.encode_char_eq, if_pos hc]

/-- A target that spells a path holds only characters that may stand in a path. -/
theorem Spells.path_chars {bytes : List UInt8} {written : List Char} (h : Spells bytes written) :
    ∀ c ∈ written, isPathChar c = true ∧ endsPath c = false := by
  induction h with
  | nil => simp
  | plain hchar hends _ ih =>
      intro c hc
      rcases List.mem_cons.mp hc with rfl | hc
      · exact ⟨hchar, hends⟩
      · exact ih c hc
  | triple _ _ hhigh hlow _ ih =>
      intro c hc
      simp only [List.mem_cons] at hc
      rcases hc with rfl | rfl | rfl | hc
      · decide
      · exact hhigh.path_char
      · exact hlow.path_char
      · exact ih c hc

/-- What a target spells is what its bytes are decoded to. -/
theorem Spells.decode_triples_eq {bytes : List UInt8} {written : List Char}
    (h : Spells bytes written) (hpercent : 0x25 ∉ bytes) :
    decodeTriples keptInPath (written.flatMap String.utf8EncodeChar) = bytes := by
  induction h with
  | nil => rfl
  | @plain c bytes written hchar _ _ ih =>
      rw [List.mem_cons, not_or] at hpercent
      have hstays : ∀ high low byte,
          [0x25, high, low] <+: UInt8.ofNat c.toNat :: written.flatMap String.utf8EncodeChar →
          hexPair? high low = some byte → keptInPath byte = true := by
        intro high low byte hprefix
        exact absurd (List.cons_prefix_cons.mp hprefix).1 hpercent.1
      rw [List.flatMap_cons, encode_path_char hchar, List.singleton_append,
        Text.decode_triples_copied hstays, ih hpercent.2]
  | @triple byte high low bytes written hslash hplus hhigh hlow _ ih =>
      rw [List.mem_cons, not_or] at hpercent
      have hpair := hex_pair_eq_some_iff.mpr ⟨high, low, hhigh, hlow, rfl, rfl⟩
      have hkept : keptInPath byte = false := by
        simp [keptInPath, hslash, hplus, Ne.symm hpercent.1]
      have hsign : String.utf8EncodeChar '%' = [0x25] := by decide
      simp only [List.flatMap_cons, hsign, encode_path_char hhigh.path_char.1,
        encode_path_char hlow.path_char.1, List.singleton_append]
      rw [Text.decode_triples_triple hpair hkept, ih hpercent.2]

/-- A target that spells a path is matched as the path. -/
theorem Spells.matched_path_eq {path written : String}
    (h : Spells (utf8Bytes path) written.toList) (hpercent : '%' ∉ path.toList) :
    matchedPath written = path := by
  have hbytes : decodeTriples keptInPath (utf8Bytes written) = utf8Bytes path :=
    h.decode_triples_eq (Text.percent_not_mem_bytes hpercent)
  rw [matchedPath, Text.decodePercent, hbytes, Text.decode_utf8_bytes]

/-- A target that spells a path with a slash in front begins with a slash. -/
theorem Spells.head_eq {bytes : List UInt8} {written : List Char}
    (h : Spells (0x2f :: bytes) written) : ∃ rest, written = '/' :: rest := by
  generalize hpath : 0x2f :: bytes = path at h
  cases h with
  | nil => cases hpath
  | @plain c _ rest hchar =>
      refine ⟨rest, ?_⟩
      have hc := (path_char_lt hchar).2
      have hbyte : UInt8.toNat 0x2f = (UInt8.ofNat c.toNat).toNat := by rw [(List.cons.inj hpath).1]
      rw [Text.to_nat_of_nat (by omega)] at hbyte
      rw [← Char.ofNat_toNat c, ← hbyte]
      rfl
  | triple hslash => exact absurd (List.cons.inj hpath).1.symm hslash

/-- A target that spells a path with a slash in front is accepted, and is a path as a whole. -/
theorem Spells.target_path_eq {path written : String}
    (h : Spells (utf8Bytes path) written.toList) (hslash : path.toList.head? = some '/') :
    targetPath? written = some written := by
  obtain ⟨tail, htail⟩ : ∃ tail, path.toList = '/' :: tail := List.head?_eq_some_iff.mp hslash
  have hbytes : utf8Bytes path = 0x2f :: tail.flatMap String.utf8EncodeChar := by
    rw [utf8Bytes, htail]
    rfl
  obtain ⟨rest, hrest⟩ := Spells.head_eq (hbytes ▸ h)
  have hpath : written.toList.takeWhile (!endsPath ·) = written.toList := by
    rw [List.takeWhile_eq_self_iff]
    intro c hc
    rw [(h.path_chars c hc).2]
    rfl
  have hquery : written.toList.dropWhile (!endsPath ·) = [] := by
    rw [List.dropWhile_eq_nil_iff]
    intro c hc
    rw [(h.path_chars c hc).2]
    rfl
  have hchars : written.toList.all isPathChar = true :=
    List.all_eq_true.mpr fun c hc ↦ (h.path_chars c hc).1
  have hne : written.toList ≠ [] := by
    rw [hrest]
    exact List.cons_ne_nil _ _
  have htarget : targetPath? written = leadingPath? written.toList := by
    unfold targetPath?
    split
    · rfl
    · rename_i hno
      exact absurd hrest (hno rest)
  rw [htarget]
  unfold leadingPath?
  simp [hpath, hquery, hchars, hne]

/-- Decoding neither adds a slash to a path nor takes one away. -/
theorem count_slash_matched_path (written : String) :
    (matchedPath written).toList.count '/' = written.toList.count '/' := by
  have hslash : '/'.toNat < 0x80 := by decide
  rw [matchedPath, Text.decodePercent, Text.count_decode_utf8 hslash,
    Text.count_decode_triples (by decide) (by decide) (by decide), Text.count_utf8_bytes hslash]

/-! ## Characters that only percent-encoding brings into a path -/

/-- The target holds the percent-encoding of a character of one byte. -/
def Encodes (written : String) (c : Char) : Prop :=
  ∃ high low, IsHexDigit (c.toNat / 16) high ∧ IsHexDigit (c.toNat % 16) low ∧
    ['%', high, low] <:+: written.toList

/-- The path of a target is written in characters that may stand in a path. -/
theorem path_chars_of_target {target written : String} (h : targetPath? target = some written) :
    ∀ c ∈ written.toList, isPathChar c = true := by
  have hleading : ∀ text, leadingPath? text = some written →
      ∀ c ∈ written.toList, isPathChar c = true := by
    intro text htext
    unfold leadingPath? at htext
    dsimp only at htext
    split at htext
    · rename_i hall
      obtain ⟨hpath, _⟩ := Bool.and_eq_true_iff.mp hall
      obtain rfl := Option.some.inj htext
      split
      · intro c hc
        rw [show c = '/' by simpa using hc]
        rfl
      · rw [String.toList_ofList]
        exact List.all_eq_true.mp hpath
    · cases htext
  unfold targetPath? at h
  split at h
  · exact hleading _ h
  · split at h
    · cases h
    · dsimp only at h
      split at h
      · exact hleading _ h
      · cases h

/-- A text of characters that may stand in a path is written with one byte for each of them. -/
theorem utf8_bytes_path {written : String} (h : ∀ c ∈ written.toList, isPathChar c = true) :
    utf8Bytes written = written.toList.map fun c ↦ UInt8.ofNat c.toNat := by
  rw [utf8Bytes, List.flatMap_congr fun c hc ↦ encode_path_char (h c hc), List.map_eq_flatMap]

/-- Characters of the ASCII range are told apart by their bytes. -/
theorem eq_of_byte_eq {c d : Char} (hc : c.toNat < 0x80) (hd : d.toNat < 0x80)
    (h : UInt8.ofNat c.toNat = UInt8.ofNat d.toNat) : c = d := by
  have hcode : c.toNat = d.toNat := by
    rw [← Text.to_nat_of_nat (show c.toNat < 256 by omega),
      ← Text.to_nat_of_nat (show d.toNat < 256 by omega), h]
  rw [← Char.ofNat_toNat c, hcode, Char.ofNat_toNat]

/-- A triple of bytes stands in a target exactly if its characters do. -/
theorem triple_infix_iff {written : String} (h : ∀ c ∈ written.toList, isPathChar c = true)
    {first second : Char} (hfirst : first.toNat < 0x80) (hsecond : second.toNat < 0x80) :
    [0x25, UInt8.ofNat first.toNat, UInt8.ofNat second.toNat] <:+: utf8Bytes written ↔
      ['%', first, second] <:+: written.toList := by
  have htriple : [0x25, UInt8.ofNat first.toNat, UInt8.ofNat second.toNat] =
      ['%', first, second].map fun c ↦ UInt8.ofNat c.toNat := rfl
  rw [utf8_bytes_path h, htriple, List.infix_map_iff]
  constructor
  · rintro ⟨triple, hstands, hbytes⟩
    obtain ⟨c, d, e, rfl⟩ : ∃ c d e, triple = [c, d, e] :=
      List.length_eq_three.mp (by simpa using (congrArg List.length hbytes).symm)
    have hascii : ∀ other ∈ [c, d, e], other.toNat < 0x80 := by
      intro other hother
      have := path_char_lt (h other (hstands.subset hother))
      omega
    simp only [List.map_cons, List.map_nil, List.cons.injEq, and_true] at hbytes
    obtain ⟨hc, hd, he⟩ := hbytes
    have hc := eq_of_byte_eq (by decide) (hascii c (by simp)) hc
    have hd := eq_of_byte_eq hfirst (hascii d (by simp)) hd
    have he := eq_of_byte_eq hsecond (hascii e (by simp)) he
    rwa [hc, hd, he]
  · exact fun hstands ↦ ⟨_, hstands, rfl⟩

/-- A control character or a space stands in the path that is matched exactly if the target
percent-encodes it. -/
theorem mem_matched_path_iff {target written : String} (h : targetPath? target = some written)
    {c : Char} (hc : c.toNat ≤ 0x20) :
    c ∈ (matchedPath written).toList ↔ Encodes written c := by
  have hchars := path_chars_of_target h
  have hascii : c.toNat < 0x80 := by omega
  have hbyte : (UInt8.ofNat c.toNat).toNat = c.toNat := Text.to_nat_of_nat (by omega)
  have hspecial : keptInPath (UInt8.ofNat c.toNat) = false ∧
      hexByte? (UInt8.ofNat c.toNat) = none ∧ UInt8.ofNat c.toNat ≠ 0x25 := by
    have hlow : ∀ n ≤ 0x20, keptInPath (UInt8.ofNat n) = false ∧
        hexByte? (UInt8.ofNat n) = none ∧ UInt8.ofNat n ≠ 0x25 := by
      decide
    exact hlow c.toNat hc
  have hwritten : UInt8.ofNat c.toNat ∉ utf8Bytes written := by
    rw [← List.count_eq_zero, Text.count_utf8_bytes hascii, List.count_eq_zero]
    intro hmem
    have := path_char_lt (hchars c hmem)
    omega
  rw [← List.count_pos_iff, matchedPath, Text.decodePercent, Text.count_decode_utf8 hascii,
    List.count_pos_iff, Text.mem_decode_triples_iff hspecial.1 hspecial.2.1 hspecial.2.2,
    or_iff_right hwritten]
  constructor
  · rintro ⟨high, low, hpair, hstands⟩
    obtain ⟨first, second, hfirst, hsecond, rfl, rfl⟩ := hex_pair_eq_some_iff.mp hpair
    rw [hbyte] at hfirst hsecond
    exact ⟨first, second, hfirst, hsecond,
      (triple_infix_iff hchars hfirst.lt hsecond.lt).mp hstands⟩
  · rintro ⟨first, second, hfirst, hsecond, hstands⟩
    refine ⟨_, _, hex_pair_eq_some_iff.mpr ⟨first, second, ?_, ?_, rfl, rfl⟩,
      (triple_infix_iff hchars hfirst.lt hsecond.lt).mpr hstands⟩
    · rwa [hbyte]
    · rwa [hbyte]

end Http

namespace Gate

open Http (Spells matchedPath targetPath?)

variable {ρ : Type} {m : Type → Type} [Monad m]

/-- Serve a request for a target as it is written, if it is well formed. The gate rules about the
path that the target spells. -/
def serveTarget (gate : Gate) (store : EventStore) (stamp : EventStamp) (user : Option User)
    (target : String) (context : RequestContext) (service : RequestContext → m ρ) :
    Option (m (Served ρ)) :=
  (targetPath? target).map fun written ↦
    gate.serveIn store stamp user (matchedPath written) context service

/-- The gate does with a target what it does with a path: it accepts the target, classifies it,
resolves it and rules about it as the path, what it publishes about it is true of the path, and
whatever the service is, the request is served as one for the path. -/
structure TreatsAs (gate : Gate) (target path : String) : Prop where
  accepted : targetPath? target = some target
  class_eq : CallPath.classify (matchedPath target) gate.settings.pathPrefix =
    CallPath.classify path gate.settings.pathPrefix
  calls_iff : ∀ resolved, gate.Calls (matchedPath target) resolved ↔ gate.Calls path resolved
  ruling_eq : ∀ stamp user, gate.examine stamp user (matchedPath target) =
    gate.examine stamp user path
  tells : ∀ stamp user event, (gate.examine stamp user (matchedPath target)).event = some event →
    gate.Tells stamp user path event
  served_eq : ∀ (ρ : Type) (m : Type → Type) [Monad m] (store : EventStore) (stamp : EventStamp)
    (user : Option User) (context : RequestContext) (service : RequestContext → m ρ),
    gate.serveTarget store stamp user target context service =
      some (gate.serveIn store stamp user path context service)

/-- A target that spells a path without percent signs is treated as the path, whatever it
percent-encodes. The slashes that the gate sees are those that are written as such, in any target. -/
theorem percent_encoding_transparent (gate : Gate) :
    (∀ path target : String, path.toList.head? = some '/' → '%' ∉ path.toList →
      Spells (Text.utf8Bytes path) target.toList → gate.TreatsAs target path) ∧
    ∀ target written : String, targetPath? target = some written →
      (matchedPath written).toList.count '/' = written.toList.count '/' := by
  constructor
  · intro path target hslash hpercent hspells
    have hmatched := hspells.matched_path_eq hpercent
    have haccepted := hspells.target_path_eq hslash
    exact {
      accepted := haccepted
      class_eq := by rw [hmatched]
      calls_iff := fun resolved ↦ by rw [hmatched]
      ruling_eq := fun stamp user ↦ by rw [hmatched]
      tells := by
        intro stamp user event hevent
        rw [hmatched] at hevent
        rcases gate.examine_event_cases stamp user path with ⟨hnone, _⟩ | ⟨_, hsome, _, htells⟩
        · rw [hnone] at hevent
          cases hevent
        · rw [hsome] at hevent
          cases hevent
          exact htells
      served_eq := by
        intro ρ m _ store stamp user context service
        rw [serveTarget, haccepted, Option.map_some, hmatched] }
  · intro target written _
    exact Http.count_slash_matched_path written

/-- A gate with nothing behind it but a service that takes all paths for calls. -/
def rootGate : Gate where
  registry := .empty
  settings := { Settings.standard with pathPrefix := "/" }

/-- A letter of two bytes and a question mark, each percent-encoded, with digits of either case. -/
theorem root_gate_treats_encoded :
    rootGate.TreatsAs "/%C3%bc/%3F" "/ü/?" ∧
      CallPath.classify (matchedPath "/%C3%bc/%3F") rootGate.settings.pathPrefix =
        .call "ü" "?" ∧
      targetPath? "/a%2Fb" = some "/a%2Fb" ∧
      (matchedPath "/a%2Fb").toList.count '/' = "/a%2Fb".toList.count '/' := by
  have hspells : Spells (Text.utf8Bytes "/ü/?") "/%C3%bc/%3F".toList := by
    have hdigit : ∀ value < 16, Http.IsHexDigit value (Nat.digitChar value) :=
      fun value hvalue ↦ ⟨hvalue, Or.inl rfl⟩
    have hcapital : ∀ value < 16, Http.IsHexDigit value (Nat.digitChar value).toUpper :=
      fun value hvalue ↦ ⟨hvalue, Or.inr rfl⟩
    have hquestion : Spells [0x3f] "%3F".toList :=
      .triple (by decide) (by decide) (hdigit 3 (by decide)) (hcapital 15 (by decide)) .nil
    have hslash : Spells [0x2f, 0x3f] "/%3F".toList := .plain (c := '/') rfl rfl hquestion
    have hsecond : Spells [0xbc, 0x2f, 0x3f] "%bc/%3F".toList :=
      .triple (by decide) (by decide) (hdigit 11 (by decide)) (hdigit 12 (by decide)) hslash
    have hfirst : Spells [0xc3, 0xbc, 0x2f, 0x3f] "%C3%bc/%3F".toList :=
      .triple (by decide) (by decide) (hcapital 12 (by decide)) (hdigit 3 (by decide)) hsecond
    exact .plain (c := '/') rfl rfl hfirst
  obtain ⟨htreats, hcount⟩ := percent_encoding_transparent rootGate
  exact ⟨htreats "/ü/?" "/%C3%bc/%3F" (by decide) (by decide) hspells, by decide +kernel,
    by decide +kernel, hcount "/a%2Fb" "/a%2Fb" (by decide +kernel)⟩

end Gate

end EndpointGuard
