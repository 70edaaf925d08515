import EndpointGuard.Proofs.Locality
import Mathlib.Data.List.Forall2

/-!
# Lists with commas

`Separated` says which tokens are parts with commas between them. `items_iff` is what the loop for
such lists reads: one item from each part.
-/

namespace EndpointGuard.Source

open Source.Parser

/-- Parts with a comma behind each; the comma behind the last may be missing. -/
inductive Separated : List (List Token) → List Token → Prop where
  | nil : Separated [] []
  | last (part : List Token) : Separated [part] part
  | cons (part : List Token) (joint : Bool) {parts : List (List Token)} {rest : List Token} :
      Separated parts rest → Separated (part :: parts) (part ++ .punct ',' joint :: rest)

variable {α : Type}

/-- Behind the first of some parts is the end, or a comma and the other parts. -/
theorem separated_cons {part : List Token} {parts : List (List Token)} {tokens : List Token}
    (h : Separated (part :: parts) tokens) :
    ∃ left, tokens = part ++ left ∧ AtBreak left ∧
      ((left = [] ∧ parts = []) ∨
        ∃ joint rest, left = .punct ',' joint :: rest ∧ Separated parts rest) := by
  cases h with
  | last => exact ⟨[], (List.append_nil _).symm, .nil, .inl ⟨rfl, rfl⟩⟩
  | cons _ joint hparts => exact ⟨_, rfl, .comma joint _, .inr ⟨joint, _, rfl, hparts⟩⟩

/-- A step of the loop: nothing is left, or an item is read and the end or a comma is behind it. -/
theorem items_succ_eq_some_iff {item : Parser α} {fuel : Nat} {tokens left : List Token}
    {found : List (α × List Token)} :
    itemsFuel atEnd item (fuel + 1) tokens = some (found, left) ↔
      (tokens = [] ∧ [] = found ∧ left = []) ∨
        (tokens ≠ [] ∧ ∃ first middle, item tokens = some (first, middle) ∧
          ((middle = [] ∧ [(first, [])] = found ∧ left = []) ∨
            ∃ joint rest more, middle = .punct ',' joint :: rest ∧
              itemsFuel atEnd item fuel rest = some (more, left) ∧
              (first, Token.symbol ",") :: more = found)) := by
  have hcomma : ",".toList = [','] := rfl
  rw [itemsFuel]
  cases tokens with
  | nil =>
      rw [if_at_end_nil, pure_eq_some_iff]
      simp
  | cons token rest =>
      rw [if_at_end_cons, bind_eq_some_iff]
      simp only [reduceCtorEq, false_and, false_or, ne_eq, not_false_eq_true, true_and]
      refine exists_congr fun first ↦ exists_congr fun middle ↦ and_congr_right fun _ ↦ ?_
      cases middle with
      | nil =>
          rw [if_at_end_nil, pure_eq_some_iff]
          simp
      | cons token rest =>
          rw [if_at_end_cons, bind_eq_some_iff]
          simp only [symbol_char_eq_some_iff hcomma, bind_eq_some_iff, pure_eq_some_iff]
          constructor
          · rintro ⟨_, middle, ⟨⟨joint, hjoint⟩, rfl⟩, more, _, hmore, rfl, rfl⟩
            exact .inr ⟨joint, middle, more, hjoint, hmore, rfl⟩
          · rintro (⟨hnil, -⟩ | ⟨joint, middle, more, hjoint, hmore, rfl⟩)
            · cases hnil
            · exact ⟨_, middle, ⟨⟨joint, hjoint⟩, rfl⟩, more, left, hmore, rfl, rfl⟩

/-- The tokens are, as a whole, one item after another with commas between them. Of the items only
those with a property are looked at, which are read alone as they are read in front of a break. -/
theorem items_iff (item : Parser α) (wanted : α → Prop)
    (hitem : ∀ {tokens left : List Token} {value : α}, wanted value → AtBreak left →
      (item tokens = some (value, left) ↔
        ∃ front, front ≠ [] ∧ tokens = front ++ left ∧ item front = some (value, [])))
    {fuel : Nat} {tokens left : List Token} (hfuel : tokens.length < fuel) {values : List α} :
    (∃ found, itemsFuel atEnd item fuel tokens = some (found, left) ∧ found.map Prod.fst = values) ∧
        (∀ value ∈ values, wanted value) ↔
      left = [] ∧ ∃ parts, Separated parts tokens ∧
        List.Forall₂ (fun part value ↦ item part = some (value, []) ∧ wanted value)
          parts values := by
  have halone {part : List Token} {value : α} (hpart : item part = some (value, []))
      (hvalue : wanted value) : part ≠ [] := by
    obtain ⟨front, hne, rfl, -⟩ := (hitem hvalue .nil).mp hpart
    exact List.append_ne_nil_of_left_ne_nil hne _
  induction fuel generalizing tokens values with
  | zero => omega
  | succ fuel ih =>
      simp only [items_succ_eq_some_iff]
      constructor
      · rintro ⟨⟨found, hfound, rfl⟩, hwanted⟩
        rcases hfound with ⟨rfl, rfl, rfl⟩ | ⟨-, first, middle, hfirst, hrest⟩
        · exact ⟨rfl, [], .nil, .nil⟩
        · rcases hrest with ⟨rfl, rfl, rfl⟩ | ⟨joint, rest, more, rfl, hmore, rfl⟩
          · have hvalue := hwanted first (by simp)
            obtain ⟨front, -, rfl, hfront⟩ := (hitem hvalue .nil).mp hfirst
            rw [List.append_nil]
            exact ⟨rfl, [front], .last front, .cons ⟨hfront, hvalue⟩ .nil⟩
          · -- A comma is behind the item, so the item is a part and the loop has less to read.
            have hvalue := hwanted first (by simp)
            obtain ⟨front, -, rfl, hfront⟩ := (hitem hvalue (.comma joint rest)).mp hfirst
            simp only [List.length_append, List.length_cons] at hfuel
            obtain ⟨rfl, parts, hparts, hvalues⟩ := (ih (by omega)).mp
              ⟨⟨more, hmore, rfl⟩, fun value hmem ↦ hwanted value (by simp_all)⟩
            exact ⟨rfl, front :: parts, .cons front joint hparts, .cons ⟨hfront, hvalue⟩ hvalues⟩
      · rintro ⟨rfl, parts, hparts, hvalues⟩
        cases hparts with
        | nil =>
            cases hvalues
            exact ⟨⟨[], .inl ⟨rfl, rfl, rfl⟩, rfl⟩, by simp⟩
        | last =>
            obtain - | ⟨⟨hfirst, hvalue⟩, hnone⟩ := hvalues
            cases hnone
            exact ⟨⟨_, .inr ⟨halone hfirst hvalue, _, [], hfirst, .inl ⟨rfl, rfl, rfl⟩⟩, rfl⟩,
              by simpa using hvalue⟩
        | @cons part joint parts rest hparts =>
            obtain - | ⟨⟨hfirst, hvalue⟩, hvalues⟩ := hvalues
            simp only [List.length_append, List.length_cons] at hfuel
            obtain ⟨⟨more, hmore, rfl⟩, hwanted⟩ :=
              (ih (by omega)).mpr ⟨rfl, parts, hparts, hvalues⟩
            have hread := (hitem hvalue (.comma joint rest)).mpr
              ⟨part, halone hfirst hvalue, rfl, hfirst⟩
            refine ⟨⟨_, .inr ⟨by simp, _, _, hread, .inr ⟨joint, rest, more, rfl, hmore, rfl⟩⟩,
              rfl⟩, ?_⟩
            intro value hmem
            simp only [List.mem_cons] at hmem
            rcases hmem with rfl | hmem
            · exact hvalue
            · exact hwanted value hmem

/-- Each of some inputs is related to something exactly when all of them are related to a list. -/
theorem exists_forall₂_iff {α β : Type} {r : α → β → Prop} {inputs : List α} :
    (∃ results, List.Forall₂ r inputs results) ↔ ∀ input ∈ inputs, ∃ result, r input result := by
  induction inputs with
  | nil => simp
  | cons input rest ih =>
      simp only [List.forall₂_cons_left_iff, List.forall_mem_cons, ← ih]
      constructor
      · rintro ⟨_, result, results, hinput, hrest, rfl⟩
        exact ⟨⟨result, hinput⟩, results, hrest⟩
      · rintro ⟨⟨result, hinput⟩, results, hrest⟩
        exact ⟨_, result, results, hinput, hrest, rfl⟩

end EndpointGuard.Source
