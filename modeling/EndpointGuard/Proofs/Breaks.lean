import EndpointGuard.Proofs.ParserSteps

/-!
# Breaks between tokens

A break is a comma, or the end of a group. `SameToBreak` relates lists of tokens that differ only
behind a break. A test that looks ahead is `Steady` if it sees the same in such lists, and `Silent`
if it sees nothing at a break. Each way to put tests together keeps them so, and the tests of single
tokens are so.
-/

namespace EndpointGuard.Source

open Source.Parser

variable {α : Type}

/-! ## Breaks -/

/-- Nothing is left, or a comma comes next. -/
inductive AtBreak : List Token → Prop where
  | nil : AtBreak []
  | comma (joint : Bool) (rest : List Token) : AtBreak (.punct ',' joint :: rest)

/-- The same tokens up to a break, and whatever behind it. -/
inductive SameToBreak : List Token → List Token → Prop where
  | atBreak {first second : List Token} : AtBreak first → AtBreak second → SameToBreak first second
  | cons (token : Token) {first second : List Token} :
      SameToBreak first second → SameToBreak (token :: first) (token :: second)

namespace SameToBreak

variable {first second : List Token}

/-- A list of tokens is the same as itself: its end is a break. -/
theorem refl (tokens : List Token) : SameToBreak tokens tokens := by
  induction tokens with
  | nil => exact .atBreak .nil .nil
  | cons token _ ih => exact .cons token ih

/-- The same tokens may be put in front. -/
theorem append (h : SameToBreak first second) (front : List Token) :
    SameToBreak (front ++ first) (front ++ second) := by
  induction front with
  | nil => exact h
  | cons token _ ih => exact .cons token ih

/-- What comes next is taken off alike unless it is the break. -/
theorem drop_one (token : Token) (h : SameToBreak first second) :
    SameToBreak (dropOne (token :: first)) (dropOne (token :: second)) := by
  cases token with
  | punct c joint =>
      by_cases hquote : c = '\'' ∧ joint = true
      · obtain ⟨rfl, rfl⟩ := hquote
        cases h with
        | atBreak hfirst hsecond =>
            cases hfirst <;> cases hsecond <;>
              exact .atBreak (by constructor) (by constructor)
        | cons next h => cases next <;> first | exact h | exact .cons _ h
      · have hplain : ∀ rest, dropOne (.punct c joint :: rest) = rest := by
          intro rest
          unfold dropOne
          split <;> simp_all
        rw [hplain, hplain]
        exact h
  | ident name => exact h
  | literal text => exact h
  | group delimiter body => exact h

end SameToBreak

/-! ## Tests -/

/-- What is seen ahead does not depend on what stands behind a break. -/
class Steady (look : List Token → α) : Prop where
  same : ∀ {first second : List Token}, SameToBreak first second → look first = look second

/-- The same where a token stands in front of the break. -/
class SteadyInside (look : List Token → α) : Prop where
  same : ∀ {first second : List Token} (token : Token), SameToBreak first second →
    look (token :: first) = look (token :: second)

/-- Nothing is seen at a break. -/
class Silent (look : Ahead) : Prop where
  at_break : ∀ {tokens : List Token}, AtBreak tokens → look tokens = false

/-- A symbol that is not empty and has no comma in it. -/
class Apart (text : String) : Prop where
  ne_nil : text.toList ≠ []
  no_comma : ',' ∉ text.toList

variable {look other : Ahead}

instance steady_inside_of_steady {look : List Token → α} [steady : Steady look] :
    SteadyInside look where
  same token h := steady.same (.cons token h)

instance steady_const (value : α) : Steady fun _ ↦ value where
  same _ := rfl

instance steady_and [hlook : Steady look] [hother : Steady other] :
    Steady fun tokens ↦ look tokens && other tokens where
  same h := by rw [hlook.same h, hother.same h]

instance steady_not [hlook : Steady look] : Steady fun tokens ↦ !look tokens where
  same h := by rw [hlook.same h]

instance steady_inside_not [hlook : SteadyInside look] :
    SteadyInside fun tokens ↦ !look tokens where
  same token h := by rw [hlook.same token h]

/-- A token that is seen first stands in front of the break. -/
instance steady_and_inside [hlook : Steady look] [silent : Silent look]
    [hother : SteadyInside other] : Steady fun tokens ↦ look tokens && other tokens where
  same h := by
    cases h with
    | atBreak hfirst hsecond => rw [silent.at_break hfirst, silent.at_break hsecond]; rfl
    | cons token h => rw [hlook.same (.cons token h), hother.same token h]

instance steady_any_of_nil : Steady (anyOf []) where
  same _ := rfl

instance steady_any_of_cons {tests : List Ahead} [hlook : Steady look]
    [htests : Steady (anyOf tests)] : Steady (anyOf (look :: tests)) where
  same h := by
    have hrest := htests.same h
    simp only [anyOf, List.any_cons] at hrest ⊢
    rw [hlook.same h, hrest]

/-- Where the end and the comma are tested for together, both kinds of breaks look alike. -/
instance steady_break {tests : List Ahead} [htests : Steady (anyOf tests)] :
    Steady (anyOf (atEnd :: isSymbol "," :: tests)) where
  same h := by
    have hrest := htests.same h
    simp only [anyOf, List.any_cons] at hrest ⊢
    rw [hrest]
    cases h with
    | atBreak hfirst hsecond => cases hfirst <;> cases hsecond <;> rfl
    | cons token h =>
        cases token with
        | punct c joint =>
            have hcomma : ∀ rest, isSymbol "," (.punct c joint :: rest) = decide (',' = c) := by
              intro rest
              by_cases hc : ',' = c
              · subst hc
                simp [isSymbol, dropSymbolChars]
              · simp [isSymbol, dropSymbolChars, hc]
            rw [hcomma, hcomma]
            rfl
        | ident name => rfl
        | literal text => rfl
        | group delimiter body => rfl

instance steady_inside_second [hlook : Steady look] : SteadyInside (second look) where
  same token h := hlook.same (h.drop_one token)

/-! ### Tests of single tokens -/

/-- A symbol without a comma in it is either taken off on both sides or on neither. -/
theorem drop_symbol_chars_same {chars : List Char} (hcomma : ',' ∉ chars)
    {first second : List Token} (h : SameToBreak first second) :
    (dropSymbolChars chars first).isSome = (dropSymbolChars chars second).isSome := by
  induction chars generalizing first second with
  | nil => rfl
  | cons c rest ih =>
      simp only [List.mem_cons, not_or] at hcomma
      cases h with
      | atBreak hfirst hsecond =>
          cases hfirst <;> cases hsecond <;> simp [dropSymbolChars, Ne.symm hcomma.1]
      | cons token h =>
          cases token with
          | punct d joint =>
              simp only [dropSymbolChars]
              split
              · exact ih hcomma.2 h
              · rfl
          | ident name => rfl
          | literal text => rfl
          | group delimiter body => rfl

instance steady_is_symbol (text : String) [apart : Apart text] : Steady (isSymbol text) where
  same h := drop_symbol_chars_same apart.no_comma h

instance silent_is_symbol (text : String) [apart : Apart text] : Silent (isSymbol text) where
  at_break h := by
    unfold isSymbol
    cases hchars : text.toList with
    | nil => exact absurd hchars apart.ne_nil
    | cons c rest =>
        have hcomma := apart.no_comma
        rw [hchars, List.mem_cons, not_or] at hcomma
        cases h <;> simp [dropSymbolChars, Ne.symm hcomma.1]

instance apart_separator : Apart "::" := ⟨by decide, by decide⟩

/-- A test of the next token alone, which neither the end nor a comma meets. -/
theorem Steady.of_head
    (hhead : ∀ token first second, look (token :: first) = look (token :: second))
    (hsilent : Silent look) : Steady look where
  same h := by
    cases h with
    | atBreak hfirst hsecond => rw [hsilent.at_break hfirst, hsilent.at_break hsecond]
    | cons token h => exact hhead token _ _

instance silent_is_word (text : String) : Silent (isWord text) where
  at_break h := by cases h <;> rfl

instance steady_is_word (text : String) : Steady (isWord text) :=
  .of_head (fun token _ _ ↦ by cases token <;> rfl) inferInstance

instance silent_is_word_of (texts : List String) : Silent (isWordOf texts) where
  at_break h := by cases h <;> rfl

instance steady_is_word_of (texts : List String) : Steady (isWordOf texts) :=
  .of_head (fun token _ _ ↦ by cases token <;> rfl) inferInstance

instance silent_is_any_word : Silent isAnyWord where
  at_break h := by cases h <;> rfl

instance steady_is_any_word : Steady isAnyWord :=
  .of_head (fun token _ _ ↦ by cases token <;> rfl) inferInstance

instance silent_is_name : Silent isName where
  at_break h := by cases h <;> rfl

instance steady_is_name : Steady isName :=
  .of_head (fun token _ _ ↦ by cases token <;> rfl) inferInstance

instance silent_is_group (delimiter : Delimiter) : Silent (isGroup delimiter) where
  at_break h := by cases h <;> rfl

instance steady_is_group (delimiter : Delimiter) : Steady (isGroup delimiter) :=
  .of_head (fun token _ _ ↦ by cases token <;> rfl) inferInstance

instance silent_is_string_literal : Silent isStringLiteral where
  at_break h := by cases h <;> rfl

instance steady_is_string_literal : Steady isStringLiteral :=
  .of_head (fun token _ _ ↦ by cases token <;> rfl) inferInstance

instance silent_is_lifetime : Silent isLifetime where
  at_break h := by cases h <;> rfl

instance steady_is_lifetime : Steady isLifetime where
  same h := by
    cases h with
    | atBreak hfirst hsecond => cases hfirst <;> cases hsecond <;> rfl
    | cons token h =>
      cases h with
      | atBreak hfirst hsecond =>
          cases token <;> cases hfirst <;> cases hsecond <;> simp [isLifetime]
      | cons next h => unfold isLifetime; split <;> split <;> simp_all

instance steady_is_literal : Steady isLiteral where
  same h := by
    cases h with
    | atBreak hfirst hsecond => cases hfirst <;> cases hsecond <;> rfl
    | cons token h =>
      cases h with
      | atBreak hfirst hsecond =>
          cases token <;> cases hfirst <;> cases hsecond <;> simp [isLiteral]
      | cons next h => unfold isLiteral; split <;> split <;> simp_all

instance steady_is_symbol_but (text excluded : String) [Apart text] [Apart excluded] :
    Steady (isSymbolBut text excluded) := by
  unfold isSymbolBut
  infer_instance

/-- The separator of a path comes next exactly where two colons do. -/
theorem is_separator_iff {tokens : List Token} :
    isSymbol "::" tokens = true ↔
      ∃ joint rest, tokens = .punct ':' true :: .punct ':' joint :: rest := by
  constructor
  · intro h
    obtain ⟨left, hleft⟩ := Option.isSome_iff_exists.mp h
    obtain ⟨joint, rest, rfl, hjoint, hrest⟩ :=
      (drop_symbol_chars_cons_iff ':' [':'] tokens left).mp hleft
    obtain ⟨joint', rest', rfl, -, -⟩ := (drop_symbol_chars_cons_iff ':' [] rest left).mp hrest
    obtain rfl : joint = true := by simpa using hjoint
    exact ⟨joint', rest', rfl⟩
  · rintro ⟨joint, rest, rfl⟩
    rfl

/-- The third token is looked at behind the two of a separator. -/
instance steady_separator_third [hlook : Steady look] :
    Steady fun tokens ↦ isSymbol "::" tokens && third look tokens where
  same {first second} h := by
    have hboth := (steady_is_symbol "::").same h
    cases hseparator : isSymbol "::" first with
    | false => simp [hseparator, ← hboth]
    | true =>
        rw [← hboth, hseparator]
        obtain ⟨joint, rest, rfl⟩ := is_separator_iff.mp hseparator
        cases h with
        | atBreak hbreak => cases hbreak
        | cons _ h =>
            cases h with
            | atBreak hbreak => cases hbreak
            | cons _ h => exact hlook.same h

instance steady_separator_not_third [Steady look] :
    Steady fun tokens ↦ isSymbol "::" tokens && !third look tokens :=
  @steady_separator_third (fun tokens ↦ !look tokens) inferInstance

end EndpointGuard.Source
