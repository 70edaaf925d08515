import Mathlib.Data.List.Basic
import EndpointGuard.Json.Reader

/-!
# Reading what was written

`Json.read` takes the text that `Json.render` gives back to the value. `Fits` describes the values
of which this can be said. The proof goes along the parts of a text: a string is read up to its
closing quote because `escapeChar` leaves no quote and no backslash alone, a whole number up to what
may stand behind a value (`Ends`), and items and members one after the other. Read `read_render`
first.
-/

namespace EndpointGuard.Json

/-- The value is read as it was written: its whole numbers have at most 64 bits, and at most `depth`
arrays and objects lie in one another. Numerals that are kept as they were written are left out. -/
inductive Fits : Nat → Json → Prop where
  | null (depth : Nat) : Fits depth .null
  | bool (depth : Nat) (value : Bool) : Fits depth (.bool value)
  | whole (depth : Nat) {n : Nat} (h : n < Nat.pow 2 64) : Fits depth (.whole n)
  | string (depth : Nat) (text : String) : Fits depth (.string text)
  | array {depth : Nat} {items : List Json} (h : ∀ item ∈ items, Fits depth item) :
      Fits (depth + 1) (.array items)
  | object {depth : Nat} {members : List (String × Json)}
      (h : ∀ member ∈ members, Fits depth member.2) : Fits (depth + 1) (.object members)

/-- What may stand behind a value: nothing, a comma, or the end of an array or an object. -/
inductive Ends : List Char → Prop where
  | nil : Ends []
  | comma (rest : List Char) : Ends (',' :: rest)
  | bracket (rest : List Char) : Ends (']' :: rest)
  | brace (rest : List Char) : Ends ('\x7d' :: rest)

/-- The character can begin a value: it is no blank, and it does not end an array. -/
def IsStart (c : Char) : Prop :=
  c ≠ ']' ∧ c ≠ ' ' ∧ c ≠ '\n' ∧ c ≠ '\t' ∧ c ≠ '\r'

instance (c : Char) : Decidable (IsStart c) :=
  inferInstanceAs (Decidable (_ ∧ _))

/-- No blank is skipped in front of a value. -/
theorem IsStart.skip_blanks {c : Char} (h : IsStart c) (rest : List Char) :
    skipBlanks (c :: rest) = c :: rest := by
  obtain ⟨_, hblanks⟩ := h
  rw [skipBlanks, List.dropWhile_cons_of_neg]
  simpa using hblanks

/-- Reading goes on with what was read. -/
theorem ok_bind {α β : Type} (value : α) (next : α → Except Fault β) :
    (Except.ok value >>= next) = next value :=
  rfl

/-! ## Strings -/

/-- A control character is written as an escape of one letter, as its number, or it is none and no
character that has to be escaped. -/
theorem escape_char_cases (c : Char) :
    (∃ letter, escapeChar c = ['\\', letter] ∧ letter ≠ 'u' ∧ shortEscape? letter = some c) ∨
    (c.toNat < 0x20 ∧ escapeChar c =
      ['\\', 'u', '0', '0', (c.toNat / 16).digitChar, (c.toNat % 16).digitChar]) ∨
    (c ≠ '"' ∧ c ≠ '\\' ∧ 0x20 ≤ c.toNat ∧ escapeChar c = [c]) := by
  unfold escapeChar
  split
  iterate 7 exact Or.inl ⟨_, rfl, by decide, rfl⟩
  split
  · rename_i hcontrol
    exact Or.inr (Or.inl ⟨hcontrol, rfl⟩)
  · rename_i hquote hbackslash _ _ _ _ _ hplain
    exact Or.inr (Or.inr ⟨hquote, hbackslash, by omega, rfl⟩)

/-- The number of a control character is read from its four digits. -/
theorem read_hex4_control {n : Nat} (h : n < 0x20) (rest : List Char) :
    readHex4 ('0' :: '0' :: (n / 16).digitChar :: (n % 16).digitChar :: rest) = .ok n := by
  have hdigits : ∀ n < 0x20,
      hexNumber? ['0', '0', (n / 16).digitChar, (n % 16).digitChar] = some n ∧
        ¬ (String.ofList ['0', '0', (n / 16).digitChar, (n % 16).digitChar]).utf8ByteSize < 4 := by
    decide +kernel
  obtain ⟨hnumber, hlong⟩ := hdigits n h
  have htake : ('0' :: '0' :: (n / 16).digitChar :: (n % 16).digitChar :: rest).take 4 =
      ['0', '0', (n / 16).digitChar, (n % 16).digitChar] := rfl
  unfold readHex4
  simp only [htake, hnumber, if_neg hlong]
  rfl

/-- The escape of a control character by its number is read. -/
theorem read_escape_control {c : Char} (h : c.toNat < 0x20) (rest : List Char) :
    readEscape ('u' :: '0' :: '0' :: (c.toNat / 16).digitChar :: (c.toNat % 16).digitChar :: rest) =
      .ok ([c], 5) := by
  have hlow : isLowSurrogate c.toNat = false := by
    simp only [isLowSurrogate, Bool.and_eq_false_iff, decide_eq_false_iff_not]
    omega
  have hhigh : isHighSurrogate c.toNat = false := by
    simp only [isHighSurrogate, Bool.and_eq_false_iff, decide_eq_false_iff_not]
    omega
  rw [readEscape, if_pos rfl, read_hex4_control h]
  simp [hlow, hhigh]

/-- A character is read from the way it is written, whatever follows. -/
theorem string_from_escape_char (c : Char) (rest : List Char) :
    stringFrom readEscape 0 (escapeChar c ++ rest) =
      (stringFrom readEscape 0 rest).map fun (more, rest) ↦ (c :: more, rest) := by
  rcases escape_char_cases c with ⟨letter, hescape, hletter, hshort⟩ | ⟨hcontrol, hescape⟩ |
    ⟨hquote, hbackslash, hplain, hescape⟩
  · have hread : readEscape (letter :: rest) = .ok ([c], 1) := by
      simp only [readEscape, if_neg hletter, hshort]
    rw [hescape]
    show stringFrom readEscape 0 ('\\' :: letter :: rest) = _
    rw [stringFrom, if_neg (by decide), if_pos rfl, hread]
    simp only [stringFrom]
    cases stringFrom readEscape 0 rest <;> rfl
  · rw [hescape]
    show stringFrom readEscape 0 ('\\' :: 'u' :: '0' :: '0' :: (c.toNat / 16).digitChar ::
      (c.toNat % 16).digitChar :: rest) = _
    rw [stringFrom, if_neg (by decide), if_pos rfl, read_escape_control hcontrol]
    simp only [stringFrom]
    cases stringFrom readEscape 0 rest <;> rfl
  · rw [hescape]
    show stringFrom readEscape 0 (c :: rest) = _
    rw [stringFrom, if_neg hquote, if_neg hbackslash, if_neg (by omega)]
    cases stringFrom readEscape 0 rest <;> rfl

/-- A string is read up to its closing quote. -/
theorem read_string_escaped (text : String) (rest : List Char) :
    readString (text.toList.flatMap escapeChar ++ '"' :: rest) = .ok (text, rest) := by
  have hchars : ∀ chars : List Char,
      stringFrom readEscape 0 (chars.flatMap escapeChar ++ '"' :: rest) = .ok (chars, rest) := by
    intro chars
    induction chars with
    | nil => rfl
    | cons c chars ih =>
        rw [List.flatMap_cons, List.append_assoc, string_from_escape_char, ih]
        rfl
  rw [readString, hchars]
  simp

/-! ## Whole numbers -/

/-- The digits of a number denote it. -/
theorem digits_value_to_digits (n : Nat) : digitsValue (Nat.toDigits 10 n) = n := by
  have hvalue := @Nat.ofDigitChars_ten_toDigits n
  rw [Nat.ofDigitChars_eq_foldl] at hvalue
  rw [digitsValue]
  simpa [Nat.mul_comm] using hvalue

/-- There is a first digit of a number, and it is zero for the number zero only. -/
theorem to_digits_cons (n : Nat) :
    ∃ c rest, Nat.toDigits 10 n = c :: rest ∧ c.isDigit = true ∧ (0 < n → c ≠ '0') := by
  induction n using Nat.strongRecOn with
  | _ n ih =>
      by_cases hlt : n < 10
      · refine ⟨n.digitChar, [], Nat.toDigits_of_lt_base hlt, ?_⟩
        have hdigit : ∀ n < 10, n.digitChar.isDigit = true ∧ (0 < n → n.digitChar ≠ '0') := by
          decide
        exact hdigit n hlt
      · obtain ⟨c, rest, hrest, hdigit, hc⟩ := ih (n / 10) (by omega)
        refine ⟨c, rest ++ [(n % 10).digitChar], ?_, hdigit, fun _ ↦ hc (by omega)⟩
        rw [Nat.toDigits_of_base_le (by decide) (by omega), hrest]
        rfl

/-- The digits of a number are read up to what may stand behind it. -/
theorem read_digits_to_digits (n : Nat) {rest : List Char} (h : Ends rest) :
    readDigits (Nat.toDigits 10 n ++ rest) = .ok (Nat.toDigits 10 n, rest) := by
  have hdigits : ∀ c ∈ Nat.toDigits 10 n, c.isDigit = true := fun _ ↦
    Nat.isDigit_of_mem_toDigits (by decide) (by decide)
  have hstop : rest.takeWhile Char.isDigit = [] ∧ rest.dropWhile Char.isDigit = rest := by
    cases h <;> exact ⟨rfl, rfl⟩
  have htake : (Nat.toDigits 10 n ++ rest).takeWhile Char.isDigit = Nat.toDigits 10 n := by
    rw [List.takeWhile_append_of_pos hdigits, hstop.1, List.append_nil]
  have hdrop : (Nat.toDigits 10 n ++ rest).dropWhile Char.isDigit = rest := by
    rw [List.dropWhile_append_of_pos hdigits, hstop.2]
  obtain ⟨c, more, hcons, hfirst, _⟩ := to_digits_cons n
  rw [hcons, List.cons_append] at htake hdrop
  rw [hcons, List.cons_append, readDigits, if_pos hfirst, htake, hdrop]

/-- The digits of a number are those in front of a point, since none of several is a zero in
front. -/
theorem read_integer_to_digits (n : Nat) {rest : List Char} (h : Ends rest) :
    readInteger (Nat.toDigits 10 n ++ rest) = .ok (Nat.toDigits 10 n, rest) := by
  by_cases hzero : n = 0
  · subst hzero
    cases h <;> rfl
  · obtain ⟨c, more, hcons, _, hc⟩ := to_digits_cons n
    have hread := read_digits_to_digits n h
    rw [hcons, List.cons_append] at hread ⊢
    unfold readInteger
    split
    · rename_i heq
      exact absurd (List.cons.inj heq).1 (hc (Nat.pos_of_ne_zero hzero))
    · exact hread

/-- A number is a numeral without a sign, a fraction and an exponent. -/
theorem read_numeral_to_digits (n : Nat) {rest : List Char} (h : Ends rest) :
    readNumeral (Nat.toDigits 10 n ++ rest) =
      .ok (⟨false, Nat.toDigits 10 n, none, none⟩, rest) := by
  have hsign : ∀ more, Nat.toDigits 10 n ++ rest ≠ '-' :: more := by
    intro more heq
    obtain ⟨c, tail, hcons, hfirst, _⟩ := to_digits_cons n
    rw [hcons, List.cons_append] at heq
    rw [(List.cons.inj heq).1] at hfirst
    exact absurd hfirst (by decide)
  unfold readNumeral
  split
  rename_i negative unsigned heq
  split at heq
  · rename_i more hmore
    exact absurd hmore (hsign more)
  · cases heq
    rw [read_integer_to_digits n h]
    cases h <;> rfl

/-- A whole number of at most 64 bits is read from its digits. -/
theorem read_number_to_digits {n : Nat} (hn : n < Nat.pow 2 64) {rest : List Char}
    (h : Ends rest) : readNumber (Nat.toDigits 10 n ++ rest) = .ok (.whole n, rest) := by
  have hbound : n < floatBound := by
    have hfloat : Nat.pow 2 64 ≤ floatBound := by decide +kernel
    omega
  have hfits : (Numeral.mk false (Nat.toDigits 10 n) none none).overflows = false := by
    have hvalue : digitsValue (Nat.toDigits 10 n ++ []) = n := by
      rw [List.append_nil, digits_value_to_digits]
    unfold Numeral.overflows
    simp only [Option.getD_none, hvalue]
    split
    · rfl
    · simp [digitsValue, hbound]
  have hvalue : (Numeral.mk false (Nat.toDigits 10 n) none none).toJson = .whole n := by
    unfold Numeral.toJson
    simp only [digits_value_to_digits]
    exact if_pos ⟨rfl, by decide, hn⟩
  rw [readNumber, read_numeral_to_digits n h]
  show (if (Numeral.mk false (Nat.toDigits 10 n) none none).overflows then _ else _) = _
  rw [hfits, hvalue]
  rfl

/-! ## Items and members -/

/-- The reader of values takes the text of the value back to it, up to what may stand behind it. -/
structure ReadsBack (item : List Char → Except Fault (Json × List Char)) (value : Json) :
    Prop where
  starts : ∃ c rest, value.renderChars = c :: rest ∧ IsStart c
  reads : ∀ rest, Ends rest → item (value.renderChars ++ rest) = .ok (value, rest)

variable {item : List Char → Except Fault (Json × List Char)} {value : Json}

/-- The texts of values, each after a comma. -/
def behindCommas {α : Type} (write : α → List Char) (values : List α) : List Char :=
  values.flatMap fun value ↦ ',' :: write value

/-- Texts after commas may stand behind a value if what follows them may. -/
theorem ends_behind_commas {α : Type} (write : α → List Char) (values : List α) {rest : List Char}
    (h : Ends rest) : Ends (behindCommas write values ++ rest) := by
  cases values with
  | nil => exact h
  | cons => exact .comma _

/-- There are no more values than characters in their texts after commas. -/
theorem length_le_behind_commas {α : Type} (write : α → List Char) (values : List α) :
    values.length ≤ (behindCommas write values).length := by
  induction values with
  | nil => exact Nat.le_refl 0
  | cons value values ih =>
      simp only [behindCommas, List.flatMap_cons, List.length_append, List.length_cons] at ih ⊢
      omega

/-- Items are the first one and the others after their commas. -/
theorem render_items_cons (first : Json) (items : List Json) :
    renderItems (first :: items) = first.renderChars ++ behindCommas renderChars items := by
  induction items generalizing first with
  | nil => simp [renderItems, behindCommas]
  | cons second items ih =>
      rw [renderItems, ih]
      · simp [behindCommas]
      · simp

/-- The first item is read, and then the others. -/
theorem ReadsBack.read_first_item (h : ReadsBack item value) (fuel : Nat) {rest : List Char}
    (hrest : Ends rest) :
    readItems item (fuel + 1) true (value.renderChars ++ rest) = (do
      let (values, rest) ← readItems item fuel false rest
      pure (value :: values, rest)) := by
  obtain ⟨c, tail, hcons, hc⟩ := h.starts
  have hread := h.reads rest hrest
  rw [hcons, List.cons_append] at hread ⊢
  rw [readItems, hc.skip_blanks]
  split
  · rename_i heq
    cases heq
  · rename_i heq
    exact absurd (List.cons.inj heq).1 hc.1
  · rename_i heq
    obtain ⟨rfl, rfl⟩ := List.cons.inj heq
    simp only [if_true, pure_bind, hread, ok_bind]

/-- A later item is read behind its comma, and then the others. -/
theorem ReadsBack.read_next_item (h : ReadsBack item value) (fuel : Nat) {rest : List Char}
    (hrest : Ends rest) :
    readItems item (fuel + 1) false (',' :: (value.renderChars ++ rest)) = (do
      let (values, rest) ← readItems item fuel false rest
      pure (value :: values, rest)) := by
  obtain ⟨c, tail, hcons, hc⟩ := h.starts
  have hread := h.reads rest hrest
  have hcomma : skipBlanks (',' :: c :: (tail ++ rest)) = ',' :: c :: (tail ++ rest) := rfl
  rw [hcons, List.cons_append] at hread ⊢
  rw [readItems, hcomma]
  split
  · rename_i heq
    cases heq
  · rename_i heq
    exact absurd (List.cons.inj heq).1 (by decide)
  · rename_i heq
    obtain ⟨rfl, rfl⟩ := List.cons.inj heq
    simp only [Bool.false_eq_true, if_false, if_true, hc.skip_blanks]
    -- A bracket behind the comma would be refused, but no value begins with one.
    split
    · rename_i heq
      cases heq
    · rename_i heq
      exact absurd (List.cons.inj heq).1 hc.1
    · simp only [pure_bind, hread, ok_bind]

/-- The items behind the first one are read up to the end of the array. -/
theorem read_more_items {items : List Json} (h : ∀ value ∈ items, ReadsBack item value)
    {fuel : Nat} (hfuel : items.length < fuel) (rest : List Char) :
    readItems item fuel false (behindCommas renderChars items ++ ']' :: rest) =
      .ok (items, rest) := by
  induction items generalizing fuel with
  | nil =>
      obtain ⟨fuel, rfl⟩ := Nat.exists_eq_succ_of_ne_zero (Nat.ne_zero_of_lt hfuel)
      rfl
  | cons value items ih =>
      obtain ⟨fuel, rfl⟩ := Nat.exists_eq_succ_of_ne_zero (Nat.ne_zero_of_lt hfuel)
      obtain ⟨hvalue, hitems⟩ := List.forall_mem_cons.mp h
      have htext : behindCommas renderChars (value :: items) ++ ']' :: rest =
          ',' :: (value.renderChars ++ (behindCommas renderChars items ++ ']' :: rest)) := by
        simp [behindCommas]
      rw [htext, hvalue.read_next_item fuel (ends_behind_commas _ items (.bracket rest)),
        ih hitems (Nat.lt_of_succ_lt_succ hfuel)]
      rfl

/-- The items of an array are read. -/
theorem read_items_render {items : List Json} (h : ∀ value ∈ items, ReadsBack item value)
    {fuel : Nat} (hfuel : items.length < fuel) (rest : List Char) :
    readItems item fuel true (renderItems items ++ ']' :: rest) = .ok (items, rest) := by
  obtain ⟨fuel, rfl⟩ := Nat.exists_eq_succ_of_ne_zero (Nat.ne_zero_of_lt hfuel)
  cases items with
  | nil => rfl
  | cons value items =>
      obtain ⟨hvalue, hitems⟩ := List.forall_mem_cons.mp h
      rw [render_items_cons, List.append_assoc,
        hvalue.read_first_item fuel (ends_behind_commas _ items (.bracket rest)),
        read_more_items hitems (Nat.lt_of_succ_lt_succ hfuel)]
      rfl

/-- Items outnumber the characters of their text by one at most. -/
theorem length_le_render_items (items : List Json) :
    items.length ≤ (renderItems items).length + 1 := by
  cases items with
  | nil => exact Nat.zero_le _
  | cons value items =>
      have hitems := length_le_behind_commas renderChars items
      rw [render_items_cons, List.length_append, List.length_cons]
      omega

/-- A member: its name and its value. -/
def renderMember (member : String × Json) : List Char :=
  renderString member.1 ++ ':' :: member.2.renderChars

/-- Members are the first one and the others after their commas. -/
theorem render_members_cons (first : String × Json) (members : List (String × Json)) :
    renderMembers (first :: members) =
      renderMember first ++ behindCommas renderMember members := by
  induction members generalizing first with
  | nil => simp [renderMembers, behindCommas, renderMember]
  | cons second members ih =>
      rw [renderMembers, ih]
      · simp [behindCommas, renderMember]
      · simp

/-- The name of a member begins with its quote, behind a comma unless it is the first. -/
theorem read_next_name_quote (first : Bool) (rest : List Char) :
    readNextName first ((if first then [] else [',']) ++ '"' :: rest) = .ok (some rest, []) := by
  cases first <;> rfl

/-- A member is read, and then the others. -/
theorem ReadsBack.read_member (h : ReadsBack item value) (name : String) (fuel : Nat)
    (first : Bool) {rest : List Char} (hrest : Ends rest) :
    readMembers item (fuel + 1) first
        ((if first then [] else [',']) ++ (renderMember (name, value) ++ rest)) = (do
      let (members, rest) ← readMembers item fuel false rest
      pure ((name, value) :: members, rest)) := by
  have hname : (if first then [] else [',']) ++ (renderMember (name, value) ++ rest) =
      (if first then [] else [',']) ++ '"' :: (name.toList.flatMap escapeChar ++
        '"' :: ':' :: (value.renderChars ++ rest)) := by
    simp [renderMember, renderString]
  have hcolon : readColon (':' :: (value.renderChars ++ rest)) =
      .ok (value.renderChars ++ rest) := rfl
  rw [hname, readMembers, read_next_name_quote, ok_bind]
  dsimp only
  rw [read_string_escaped, ok_bind, hcolon, ok_bind, h.reads rest hrest, ok_bind]

/-- The members behind the first one are read up to the end of the object. -/
theorem read_more_members {members : List (String × Json)}
    (h : ∀ member ∈ members, ReadsBack item member.2) {fuel : Nat}
    (hfuel : members.length < fuel) (rest : List Char) :
    readMembers item fuel false (behindCommas renderMember members ++ '\x7d' :: rest) =
      .ok (members, rest) := by
  induction members generalizing fuel with
  | nil =>
      obtain ⟨fuel, rfl⟩ := Nat.exists_eq_succ_of_ne_zero (Nat.ne_zero_of_lt hfuel)
      rfl
  | cons member members ih =>
      obtain ⟨fuel, rfl⟩ := Nat.exists_eq_succ_of_ne_zero (Nat.ne_zero_of_lt hfuel)
      obtain ⟨hmember, hmembers⟩ := List.forall_mem_cons.mp h
      have hstep := hmember.read_member member.1 fuel false
        (ends_behind_commas renderMember members (.brace rest))
      rw [ih hmembers (Nat.lt_of_succ_lt_succ hfuel), ok_bind] at hstep
      have htext : behindCommas renderMember (member :: members) ++ '\x7d' :: rest =
          ',' :: (renderMember member ++
            (behindCommas renderMember members ++ '\x7d' :: rest)) := by
        simp [behindCommas]
      rw [htext]
      exact hstep

/-- The members of an object are read. -/
theorem read_members_render {members : List (String × Json)}
    (h : ∀ member ∈ members, ReadsBack item member.2) {fuel : Nat}
    (hfuel : members.length < fuel) (rest : List Char) :
    readMembers item fuel true (renderMembers members ++ '\x7d' :: rest) =
      .ok (members, rest) := by
  obtain ⟨fuel, rfl⟩ := Nat.exists_eq_succ_of_ne_zero (Nat.ne_zero_of_lt hfuel)
  cases members with
  | nil => rfl
  | cons member members =>
      obtain ⟨hmember, hmembers⟩ := List.forall_mem_cons.mp h
      have hstep := hmember.read_member member.1 fuel true
        (ends_behind_commas renderMember members (.brace rest))
      rw [read_more_members hmembers (Nat.lt_of_succ_lt_succ hfuel), ok_bind] at hstep
      rw [render_members_cons, List.append_assoc]
      exact hstep

/-- Members outnumber the characters of their text by one at most. -/
theorem length_le_render_members (members : List (String × Json)) :
    members.length ≤ (renderMembers members).length + 1 := by
  cases members with
  | nil => exact Nat.zero_le _
  | cons member members =>
      have hmembers := length_le_behind_commas renderMember members
      rw [render_members_cons, List.length_append, List.length_cons]
      omega

/-! ## Values -/

/-- A digit begins a value. -/
theorem is_start_of_digit {c : Char} (h : c.isDigit = true) : IsStart c := by
  refine ⟨?_, ?_, ?_, ?_, ?_⟩ <;>
    · rintro rfl
      exact absurd h (by decide)

/-- Every value begins with a character that can begin one. -/
theorem Fits.starts {depth : Nat} (h : Fits depth value) :
    ∃ c rest, value.renderChars = c :: rest ∧ IsStart c := by
  cases h with
  | null => exact ⟨'n', _, rfl, by decide⟩
  | bool _ b => cases b <;> exact ⟨_, _, rfl, by decide⟩
  | @whole _ n =>
      obtain ⟨c, rest, hcons, hfirst, _⟩ := to_digits_cons n
      exact ⟨c, rest, by rw [renderChars, hcons], is_start_of_digit hfirst⟩
  | string => exact ⟨'"', _, by rw [renderChars, renderString], by decide⟩
  | array => exact ⟨'[', _, by rw [renderChars], by decide⟩
  | object => exact ⟨'\x7b', _, by rw [renderChars], by decide⟩

/-- What begins with a digit is read as a number. -/
theorem read_value_of_digit {c : Char} (h : c.isDigit = true) (depth : Nat) (rest : List Char) :
    readValue depth (c :: rest) = readNumber (c :: rest) := by
  unfold readValue
  rw [(is_start_of_digit h).skip_blanks]
  split
  case h_1 heq => cases heq
  case h_8 heq =>
    obtain ⟨rfl, rfl⟩ := List.cons.inj heq
    exact if_pos (Or.inr h)
  -- No digit begins a value of another kind.
  all_goals
    rename_i heq
    rw [(List.cons.inj heq).1] at h
    exact absurd h (by decide)

/-- The reader takes the text of a value back to it. -/
theorem Fits.reads_back {depth : Nat} (h : Fits depth value) :
    ReadsBack (readValue depth) value := by
  refine ⟨h.starts, ?_⟩
  induction h with
  | null depth =>
      intro rest _
      unfold readValue
      rfl
  | bool depth b =>
      intro rest _
      unfold readValue
      cases b <;> rfl
  | @whole depth n hn =>
      intro rest hrest
      obtain ⟨c, more, hcons, hfirst, _⟩ := to_digits_cons n
      have hnumber := read_number_to_digits hn hrest
      rw [renderChars]
      rw [hcons, List.cons_append] at hnumber ⊢
      rw [read_value_of_digit hfirst, hnumber]
  | string depth text =>
      intro rest _
      have htext : renderChars (.string text) ++ rest =
          '"' :: (text.toList.flatMap escapeChar ++ '"' :: rest) := by
        simp [renderChars, renderString]
      rw [htext]
      unfold readValue
      show (readString _).map _ = _
      rw [read_string_escaped]
      rfl
  | @array depth items hitems ih =>
      intro rest _
      have htext : renderChars (.array items) ++ rest =
          '[' :: (renderItems items ++ ']' :: rest) := by
        simp [renderChars]
      have hlength := length_le_render_items items
      rw [htext]
      unfold readValue
      show (readItems (readValue depth) _ true _).map _ = _
      rw [read_items_render fun value hvalue ↦ ⟨(hitems value hvalue).starts, ih value hvalue⟩]
      · rfl
      · rw [List.length_append, List.length_cons]
        omega
  | @object depth members hmembers ih =>
      intro rest _
      have htext : renderChars (.object members) ++ rest =
          '\x7b' :: (renderMembers members ++ '\x7d' :: rest) := by
        simp [renderChars]
      have hlength := length_le_render_members members
      rw [htext]
      unfold readValue
      show (readMembers (readValue depth) _ true _).map _ = _
      rw [read_members_render fun member hmember ↦
        ⟨(hmembers member hmember).starts, ih member hmember⟩]
      · rfl
      · rw [List.length_append, List.length_cons]
        omega

/-- Reading the text of a value gives the value. -/
theorem read_render (h : Fits nestingLimit value) : read value.render = .ok value := by
  have hread := h.reads_back.reads [] .nil
  rw [List.append_nil] at hread
  rw [read, render, String.toList_ofList, hread, ok_bind]
  exact if_pos rfl

end EndpointGuard.Json
