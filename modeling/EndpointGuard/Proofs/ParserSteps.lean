import EndpointGuard.Source.Parser
import Mathlib.Data.Option.Basic

/-!
# What parsers read

A parser reads a value from some tokens and leaves others. There is one lemma for each way to put
parsers together and for each parser of a single token, which says what is read and what is left.
-/

namespace EndpointGuard.Source

open Source.Parser

variable {α β : Type} {tokens left : List Token}

/-! ## Steps -/

/-- A given value is read from no tokens. -/
theorem pure_eq_some_iff {value result : α} :
    (pure value : Parser α) tokens = some (result, left) ↔ value = result ∧ left = tokens := by
  show some (value, tokens) = some (result, left) ↔ _
  rw [Option.some.injEq, Prod.mk.injEq, @eq_comm _ tokens left]

/-- Failing reads nothing. -/
theorem failure_eq_none : (failure : Parser α) tokens = none := rfl

/-- A step and what follows it read what is read together. -/
theorem bind_eq_some_iff {p : Parser α} {f : α → Parser β} {value : β} :
    (p >>= f) tokens = some (value, left) ↔
      ∃ first middle, p tokens = some (first, middle) ∧ f first middle = some (value, left) := by
  show (p tokens >>= fun found ↦ f found.1 found.2) = some (value, left) ↔ _
  cases p tokens with
  | none => simp
  | some found =>
      obtain ⟨first, middle⟩ := found
      simp [Prod.ext_iff, and_assoc]

/-- What follows a look at the tokens is given what the look sees. -/
theorem ahead_bind (look : Ahead) (next : Bool → Parser β) (tokens : List Token) :
    (ahead look >>= next) tokens = next (look tokens) tokens := rfl

/-- What follows a copy of the tokens is given the tokens. -/
theorem get_bind (next : List Token → Parser β) (tokens : List Token) :
    (get >>= next : Parser β) tokens = next tokens tokens := rfl

/-- Of two parsers, the first is taken where the look sees what it looks for. -/
theorem if_ahead_of_true {look : Ahead} (p q : Parser β) (h : look tokens = true) :
    (do if ← ahead look then p else q : Parser β) tokens = p tokens := by
  rw [ahead_bind, h, if_pos rfl]

/-- Of two parsers, the second is taken where the look does not see it. -/
theorem if_ahead_of_false {look : Ahead} (p q : Parser β) (h : look tokens = false) :
    (do if ← ahead look then p else q : Parser β) tokens = q tokens := by
  rw [ahead_bind, h, if_neg Bool.false_ne_true]

/-- Of two parsers, the first is taken at the end. -/
theorem if_at_end_nil (first second : Parser α) :
    (do if ← ahead atEnd then first else second : Parser α) [] = first [] := rfl

/-- Of two parsers, the second is taken in front of a token. -/
theorem if_at_end_cons (first second : Parser α) (token : Token) (rest : List Token) :
    (do if ← ahead atEnd then first else second : Parser α) (token :: rest) =
      second (token :: rest) := rfl

/-- A parser reads all tokens when it leaves none. -/
theorem all_eq_some_iff {p : Parser α} {value : α} :
    all p tokens = some value ↔ p tokens = some (value, []) := by
  unfold all
  split <;> simp_all

/-! ## Symbols -/

/-- A character of a symbol is taken off when it comes next, joined to the next one unless it is the
last. -/
theorem drop_symbol_chars_cons_iff (c : Char) (rest : List Char) (tokens left : List Token) :
    dropSymbolChars (c :: rest) tokens = some left ↔
      ∃ joint more, tokens = .punct c joint :: more ∧ (rest = [] ∨ joint = true) ∧
        dropSymbolChars rest more = some left := by
  cases tokens with
  | nil => simp [dropSymbolChars]
  | cons token more =>
      cases token with
      | punct d joint =>
          simp only [dropSymbolChars]
          split
          · rename_i hc
            obtain ⟨rfl, hjoint⟩ := hc
            constructor
            · exact fun h ↦ ⟨joint, more, rfl, by simpa using hjoint, h⟩
            · rintro ⟨_, _, heq, -, h⟩
              cases heq
              exact h
          · rename_i hc
            constructor
            · simp
            · rintro ⟨joint, more, heq, hjoint, -⟩
              cases heq
              exact absurd ⟨rfl, by simpa using hjoint⟩ hc
      | ident name => simp [dropSymbolChars]
      | literal text => simp [dropSymbolChars]
      | group delimiter body => simp [dropSymbolChars]

/-- A symbol is read by its characters and is written anew. -/
theorem symbol_eq_some_iff {text : String} {written : List Token} :
    symbol text tokens = some (written, left) ↔
      dropSymbolChars text.toList tokens = some left ∧ written = Token.symbol text := by
  unfold symbol
  cases dropSymbolChars text.toList tokens with
  | none => simp
  | some rest => simp [and_comm, eq_comm]

/-- A symbol of one character is one token, joined to the next or not. -/
theorem symbol_char_eq_some_iff {text : String} {c : Char} (htext : text.toList = [c])
    {written : List Token} :
    symbol text tokens = some (written, left) ↔
      (∃ joint, tokens = .punct c joint :: left) ∧ written = Token.symbol text := by
  rw [symbol_eq_some_iff, htext]
  refine and_congr_left fun _ ↦ ?_
  have h := drop_symbol_chars_cons_iff c [] tokens left
  simpa [dropSymbolChars, eq_comm] using h

/-! ## Names and literals -/

/-- A name is an identifier that is no keyword. -/
theorem name_eq_some_iff {key : String} :
    Parser.name tokens = some (key, left) ↔ tokens = .ident key :: left ∧ key ∉ keywords := by
  unfold Parser.name
  split <;> [split; skip] <;> simp_all <;> grind

/-- A string literal is read as the token that it is. -/
theorem string_literal_eq_some_iff {value : List Token} :
    stringLiteral tokens = some (value, left) ↔
      ∃ text, tokens = .literal text :: left ∧ isStringText text = true ∧
        value = [.literal text] := by
  unfold stringLiteral
  split <;> [split; skip] <;> simp_all
  grind

end EndpointGuard.Source
