import EndpointGuard.Declare.Arguments
import EndpointGuard.Proofs.CommaList
import EndpointGuard.Proofs.MarkerAttribute
import EndpointGuard.Proofs.TypeLocality
import Mathlib.Data.List.Forall2
import Mathlib.Data.List.Perm.Basic

/-!
# The grammar of the arguments of a declaration

`Listing` says how the arguments are written: a string literal may lead, and behind it, after a
comma, stand pairs with commas between them. `Arguments.ofTokens` accepts exactly the lists of pairs
in which the name and the parent are given at most once.
-/

namespace EndpointGuard.Declare

open Source Source.Parser

/-! ## The grammar -/

/-- What an argument gives: the string literal that names the endpoint, or the type to extend. -/
inductive Argument where
  | name (text : List Token)
  | parent (type : List Token)

/-- The name that an argument gives. -/
def Argument.name? : Argument → Option (List Token)
  | .name text => some text
  | .parent _ => none

/-- The parent that an argument gives. -/
def Argument.parent? : Argument → Option (List Token)
  | .name _ => none
  | .parent type => some type

/-- The pair of a key and a value that an argument is written as. -/
inductive IsPair (g : Grammar) : Argument → List Token → Prop where
  | name (joint : Bool) {text : String} : isStringText text = true →
      IsPair g (.name [.literal text]) [.ident "name", .punct '=' joint, .literal text]
  | parent (joint : Bool) {value : List Token} {form : TypeForm} :
      g.type true value = some (form, []) →
      IsPair g (.parent form.tokens) (.ident "extends" :: .punct '=' joint :: value)

/-- A pair has a token. -/
theorem IsPair.ne_nil {g : Grammar} {argument : Argument} {part : List Token}
    (h : IsPair g argument part) : part ≠ [] := by
  cases h <;> simp

/-- The tokens are a leading string literal, if there is one, and parts behind it. -/
inductive Listing : Option String → List (List Token) → List Token → Prop where
  | pairs {parts : List (List Token)} {tokens : List Token} :
      Separated parts tokens → Listing none parts tokens
  | alone {text : String} : isStringText text = true → Listing (some text) [] [.literal text]
  | leading {text : String} (joint : Bool) {parts : List (List Token)} {rest : List Token} :
      isStringText text = true → Separated parts rest →
      Listing (some text) parts (.literal text :: .punct ',' joint :: rest)

/-- The argument that a leading string literal is. -/
def leadingArgument (lead : Option String) : List Argument :=
  (lead.map fun text ↦ Argument.name [.literal text]).toList

/-- The tokens are how some arguments are written: the first one may be a leading string literal,
and the others are pairs. -/
def Written (g : Grammar) (arguments : List Argument) (tokens : List Token) : Prop :=
  ∃ lead parts pairs, Listing lead parts tokens ∧ List.Forall₂ (IsPair g) pairs parts ∧
    arguments = leadingArgument lead ++ pairs

/-! ## One way of writing -/

/-- A list of pairs does not begin with a string literal. -/
theorem no_literal_of_separated {g : Grammar} {parts : List (List Token)} {tokens : List Token}
    (h : Separated parts tokens) {pairs : List Argument}
    (hpairs : List.Forall₂ (IsPair g) pairs parts) : isStringLiteral tokens = false := by
  cases h with
  | nil => rfl
  | last =>
      obtain - | ⟨hpart, -⟩ := hpairs
      cases hpart <;> rfl
  | cons =>
      obtain - | ⟨hpart, -⟩ := hpairs
      cases hpart <;> rfl

/-- Two pairs in front of breaks of the same tokens are the same. -/
theorem IsPair.unique {g : Grammar} [types : LocalTypes g] {argument argument' : Argument}
    {part part' left left' : List Token} (h : IsPair g argument part)
    (h' : IsPair g argument' part') (hbreak : AtBreak left) (hbreak' : AtBreak left')
    (heq : part ++ left = part' ++ left') : argument = argument' ∧ left = left' := by
  cases h with
  | name joint _ =>
      cases h' with
      | name joint' _ =>
          simp only [List.cons_append, List.nil_append, List.cons.injEq] at heq
          grind
      | parent joint' _ => simp at heq
  | parent joint hvalue =>
      cases h' with
      | name joint' _ => simp at heq
      | parent joint' hvalue' =>
          simp only [List.cons_append, List.cons.injEq, true_and] at heq
          have hread := (read_before_break_iff (fun a b ↦ types.type a b true) hbreak).mpr
            ⟨_, rfl, hvalue⟩
          have hread' := (read_before_break_iff (fun a b ↦ types.type a b true) hbreak').mpr
            ⟨_, rfl, hvalue'⟩
          rw [heq.2, hread'] at hread
          cases hread
          exact ⟨rfl, rfl⟩

/-- A list of pairs is not empty if it begins with one. -/
theorem ne_nil_of_separated {g : Grammar} {argument : Argument} {part : List Token}
    {parts : List (List Token)} {tokens : List Token} (h : Separated (part :: parts) tokens)
    (hpart : IsPair g argument part) : tokens ≠ [] := by
  obtain ⟨left, rfl, -⟩ := separated_cons h
  exact List.append_ne_nil_of_left_ne_nil hpart.ne_nil _

/-- Tokens are a list of pairs in one way. -/
theorem pairs_unique {g : Grammar} [LocalTypes g] {pairs pairs' : List Argument}
    {parts parts' : List (List Token)} {tokens : List Token}
    (hparts : Separated parts tokens) (hpairs : List.Forall₂ (IsPair g) pairs parts)
    (hparts' : Separated parts' tokens) (hpairs' : List.Forall₂ (IsPair g) pairs' parts') :
    pairs = pairs' := by
  induction hpairs generalizing pairs' parts' tokens with
  | nil =>
      cases hparts
      cases hpairs' with
      | nil => rfl
      | cons hpart' _ => exact absurd rfl (ne_nil_of_separated hparts' hpart')
  | cons hpart hrest ih =>
      cases hpairs' with
      | nil =>
          cases hparts'
          exact absurd rfl (ne_nil_of_separated hparts hpart)
      | cons hpart' hrest' =>
          -- Both first pairs end in front of a break, so they are one pair and leave the same.
          obtain ⟨left, rfl, hbreak, hleft⟩ := separated_cons hparts
          obtain ⟨left', heq, hbreak', hleft'⟩ := separated_cons hparts'
          obtain ⟨rfl, rfl⟩ := hpart.unique hpart' hbreak hbreak' heq
          congr 1
          rcases hleft with ⟨rfl, rfl⟩ | ⟨joint, rest, rfl, hmore⟩
          · obtain ⟨-, rfl⟩ | ⟨_, _, hnil, -⟩ := hleft'
            · cases hrest
              cases hrest'
              rfl
            · cases hnil
          · obtain ⟨hcomma, -⟩ | ⟨_, _, hcomma, hmore'⟩ := hleft'
            · cases hcomma
            · cases hcomma
              exact ih hmore hmore' hrest'

/-- Arguments are written in one way. -/
theorem written_unique {g : Grammar} [LocalTypes g] {arguments arguments' : List Argument}
    {tokens : List Token} (h : Written g arguments tokens) (h' : Written g arguments' tokens) :
    arguments = arguments' := by
  obtain ⟨lead, parts, pairs, hlisting, hpairs, rfl⟩ := h
  obtain ⟨lead', parts', pairs', hlisting', hpairs', rfl⟩ := h'
  cases hlisting with
  | pairs hparts =>
      have hnone := no_literal_of_separated hparts hpairs
      cases hlisting' with
      | pairs hparts' => exact congrArg _ (pairs_unique hparts hpairs hparts' hpairs')
      | alone htext => exact absurd (htext.symm.trans hnone) (by decide)
      | leading _ htext _ => exact absurd (htext.symm.trans hnone) (by decide)
  | alone htext =>
      cases hpairs
      cases hlisting' with
      | pairs hparts' =>
          exact absurd (htext.symm.trans (no_literal_of_separated hparts' hpairs')) (by decide)
      | alone =>
          cases hpairs'
          rfl
  | leading _ htext hparts =>
      cases hlisting' with
      | pairs hparts' =>
          exact absurd (htext.symm.trans (no_literal_of_separated hparts' hpairs')) (by decide)
      | leading _ _ hparts' => exact congrArg _ (pairs_unique hparts hpairs hparts' hpairs')

/-! ## Taking arguments one by one -/

namespace Arguments

/-- The arguments with one more. The name and the parent are given once. -/
def add (arguments : Arguments) : Argument → Except Rejection Arguments
  | .name text =>
    if arguments.name.isSome then .error .nameTwice else .ok { arguments with name := some text }
  | .parent type =>
    if arguments.parent.isSome then .error .parentTwice
    else .ok { arguments with parent := some type }

/-- The arguments with some more, one by one. -/
def addAll (arguments : Arguments) : List Argument → Except Rejection Arguments :=
  List.foldlM add arguments

/-- An argument is taken exactly if what it gives was not given before. -/
theorem add_eq_ok_iff (start : Arguments) (argument : Argument) (result : Arguments) :
    start.add argument = .ok result ↔
      result.name.toList = start.name.toList ++ argument.name?.toList ∧
        result.parent.toList = start.parent.toList ++ argument.parent?.toList := by
  obtain ⟨name, parent⟩ := start
  obtain ⟨name', parent'⟩ := result
  cases argument with
  | name text =>
      cases name <;> cases parent <;> cases name' <;> cases parent' <;>
        simp [add, Argument.name?, Argument.parent?] <;> grind
  | parent type =>
      cases name <;> cases parent <;> cases name' <;> cases parent' <;>
        simp [add, Argument.name?, Argument.parent?] <;> grind

/-- What stands in front in the list of an optional value is the list of an optional value. -/
theorem exists_front_to_list {α : Type} {front rest : List α} {value : Option α}
    (h : value.toList = front ++ rest) : ∃ first : Option α, first.toList = front := by
  cases front with
  | nil => exact ⟨none, rfl⟩
  | cons first more =>
      cases value with
      | none => cases h
      | some only =>
          obtain ⟨rfl, rfl, -⟩ : first = only ∧ more = [] ∧ rest = [] := by simpa [eq_comm] using h
          exact ⟨some first, rfl⟩

/-- A value that may be missing is known by the list of it. -/
theorem to_list_inj {α : Type} {first second : Option α} :
    first.toList = second.toList ↔ first = second := by
  cases first <;> cases second <;> simp

/-- All arguments are taken exactly when no name and no parent comes behind another, and then they
give what was written. -/
theorem add_all_eq_ok_iff (start : Arguments) (arguments : List Argument) (result : Arguments) :
    start.addAll arguments = .ok result ↔
      result.name.toList = start.name.toList ++ arguments.filterMap Argument.name? ∧
        result.parent.toList = start.parent.toList ++ arguments.filterMap Argument.parent? := by
  induction arguments generalizing start with
  | nil =>
      obtain ⟨name, parent⟩ := start
      obtain ⟨name', parent'⟩ := result
      simp [addAll, pure, Except.pure, to_list_inj, eq_comm]
  | cons argument rest ih =>
      have hcons {α : Type} (f : Argument → Option α) :
          (argument :: rest).filterMap f = (f argument).toList ++ rest.filterMap f := by
        cases h : f argument <;> simp [h]
      have hstep : start.addAll (argument :: rest) =
          (start.add argument >>= fun next ↦ next.addAll rest) := rfl
      simp only [hstep, bind_eq_ok_iff, add_eq_ok_iff, ih, hcons, ← List.append_assoc]
      constructor
      · rintro ⟨next, ⟨hname, hparent⟩, hname', hparent'⟩
        exact ⟨by rw [hname', hname], by rw [hparent', hparent]⟩
      · rintro ⟨hname, hparent⟩
        obtain ⟨name, hfirst⟩ := exists_front_to_list hname
        obtain ⟨parent, hfirst'⟩ := exists_front_to_list hparent
        exact ⟨⟨name, parent⟩, ⟨hfirst, hfirst'⟩, by rw [hname, hfirst], by rw [hparent, hfirst']⟩

/-! ## Reading a pair -/

/-- A step and what follows it read what is read together. -/
theorem reader_bind_eq_ok_iff {α β : Type} (first : Reader α) (next : α → Reader β)
    (tokens left : List Token) (result : β) :
    (first >>= next) tokens = .ok (result, left) ↔
      ∃ value middle, first tokens = .ok (value, middle) ∧
        next value middle = .ok (result, left) := by
  show (first tokens >>= fun found ↦ next found.1 found.2) = .ok (result, left) ↔ _
  rw [bind_eq_ok_iff]
  exact Prod.exists

/-- A given value is read from no tokens. -/
theorem reader_pure_eq_ok_iff {α : Type} (value result : α) (tokens left : List Token) :
    (pure value : Reader α) tokens = .ok (result, left) ↔ value = result ∧ left = tokens := by
  show Except.ok (value, tokens) = .ok (result, left) ↔ _
  rw [Except.ok.injEq, Prod.mk.injEq, @eq_comm _ tokens left]

/-- Of two readers, the first is taken at the end. -/
theorem reader_if_at_end_nil {α : Type} (first second : Reader α) :
    (do if atEnd (← get) then first else second : Reader α) [] = first [] := rfl

/-- Of two readers, the second is taken in front of a token. -/
theorem reader_if_at_end_cons {α : Type} (first second : Reader α) (token : Token)
    (rest : List Token) :
    (do if atEnd (← get) then first else second : Reader α) (token :: rest) =
      second (token :: rest) := rfl

/-- A part of an argument is read as its parser reads it. -/
theorem part_eq_ok_iff {α : Type} (parser : Parser α) (tokens left : List Token) (value : α) :
    part parser tokens = .ok (value, left) ↔ parser tokens = some (value, left) := by
  unfold part
  cases parser tokens <;> simp

/-- What is read in front of a break is a pair that may come. -/
theorem pair_eq_ok_iff {g : Grammar} [types : LocalTypes g] {start result : Arguments}
    {tokens left : List Token} (hbreak : AtBreak left) :
    pair g start tokens = .ok (result, left) ↔
      ∃ argument part, tokens = part ++ left ∧ IsPair g argument part ∧
        start.add argument = .ok result := by
  have hequals : "=".toList = ['='] := rfl
  unfold pair
  simp only [reader_bind_eq_ok_iff, part_eq_ok_iff, name_eq_some_iff,
    symbol_char_eq_some_iff hequals]
  constructor
  · rintro ⟨key, _, ⟨rfl, hkey⟩, _, rest, ⟨⟨joint, rfl⟩, rfl⟩, h⟩
    split at h
    · split at h
      · cases h
      · rename_i hnone
        simp only [reader_bind_eq_ok_iff, part_eq_ok_iff, string_literal_eq_some_iff,
          reader_pure_eq_ok_iff] at h
        obtain ⟨_, _, ⟨text, rfl, htext, rfl⟩, rfl, rfl⟩ := h
        exact ⟨_, _, rfl, .name joint htext, by rw [add, if_neg hnone]⟩
    · split at h
      · cases h
      · rename_i hnone
        simp only [reader_bind_eq_ok_iff, part_eq_ok_iff, reader_pure_eq_ok_iff] at h
        obtain ⟨form, _, hform, rfl, rfl⟩ := h
        obtain ⟨value, rfl, hvalue⟩ :=
          (read_before_break_iff (fun a b ↦ types.type a b true) hbreak).mp hform
        exact ⟨_, _, rfl, .parent joint hvalue, by rw [add, if_neg hnone]⟩
    · cases h
  · rintro ⟨argument, part, rfl, hpair, hadd⟩
    cases hpair with
    | name joint htext =>
        refine ⟨"name", _, ⟨rfl, by decide⟩, _, _, ⟨⟨joint, rfl⟩, rfl⟩, ?_⟩
        simp only [add] at hadd
        split at hadd
        · cases hadd
        · rename_i hnone
          cases hadd
          rw [if_neg hnone]
          simp only [reader_bind_eq_ok_iff, part_eq_ok_iff, string_literal_eq_some_iff,
            reader_pure_eq_ok_iff]
          exact ⟨_, _, ⟨_, rfl, htext, rfl⟩, rfl, rfl⟩
    | parent joint hvalue =>
        refine ⟨"extends", _, ⟨rfl, by decide⟩, _, _, ⟨⟨joint, rfl⟩, rfl⟩, ?_⟩
        simp only [add] at hadd
        split at hadd
        · cases hadd
        · rename_i hnone
          cases hadd
          rw [if_neg hnone]
          simp only [reader_bind_eq_ok_iff, part_eq_ok_iff, reader_pure_eq_ok_iff]
          exact ⟨_, _, (read_before_break_iff (fun a b ↦ types.type a b true) hbreak).mpr
            ⟨_, rfl, hvalue⟩, rfl, rfl⟩

/-! ## Reading all pairs -/

/-- A step of the loop: nothing is left, or a pair is read and the end or a comma is behind it. -/
theorem pairs_succ_eq_ok_iff {g : Grammar} {fuel : Nat} {start result : Arguments}
    {tokens left : List Token} :
    pairs g (fuel + 1) start tokens = .ok (result, left) ↔
      (tokens = [] ∧ start = result ∧ left = []) ∨
        (tokens ≠ [] ∧ ∃ next middle, pair g start tokens = .ok (next, middle) ∧
          ((middle = [] ∧ next = result ∧ left = []) ∨
            ∃ joint rest, middle = .punct ',' joint :: rest ∧
              pairs g fuel next rest = .ok (result, left))) := by
  have hcomma : ",".toList = [','] := rfl
  rw [pairs]
  cases tokens with
  | nil =>
      rw [reader_if_at_end_nil, reader_pure_eq_ok_iff]
      simp
  | cons token rest =>
      rw [reader_if_at_end_cons, reader_bind_eq_ok_iff]
      simp only [reduceCtorEq, false_and, false_or, ne_eq, not_false_eq_true, true_and]
      refine exists_congr fun next ↦ exists_congr fun middle ↦ and_congr_right fun _ ↦ ?_
      cases middle with
      | nil =>
          rw [reader_if_at_end_nil, reader_pure_eq_ok_iff]
          simp
      | cons token rest =>
          rw [reader_if_at_end_cons, reader_bind_eq_ok_iff]
          simp [part_eq_ok_iff, symbol_char_eq_some_iff hcomma]

/-- With steps enough for the tokens, the loop takes the pairs of a list, and all of it. -/
theorem pairs_eq_ok_iff {g : Grammar} [LocalTypes g] {fuel : Nat} {start result : Arguments}
    {tokens left : List Token} (hfuel : tokens.length < fuel) :
    pairs g fuel start tokens = .ok (result, left) ↔
      left = [] ∧ ∃ parts arguments, Separated parts tokens ∧
        List.Forall₂ (IsPair g) arguments parts ∧ start.addAll arguments = .ok result := by
  induction fuel generalizing start tokens with
  | zero => omega
  | succ fuel ih =>
      rw [pairs_succ_eq_ok_iff]
      constructor
      · rintro (⟨rfl, rfl, rfl⟩ | ⟨-, next, middle, hpair, hrest⟩)
        · exact ⟨rfl, [], [], .nil, .nil, rfl⟩
        · rcases hrest with ⟨rfl, rfl, rfl⟩ | ⟨joint, rest, rfl, hrest⟩
          · obtain ⟨argument, part, rfl, hpart, hadd⟩ := (pair_eq_ok_iff .nil).mp hpair
            rw [List.append_nil]
            exact ⟨rfl, [part], [argument], .last part, .cons hpart .nil,
              (bind_eq_ok_iff _ _ _).mpr ⟨next, hadd, rfl⟩⟩
          · obtain ⟨argument, part, rfl, hpart, hadd⟩ :=
              (pair_eq_ok_iff (.comma joint rest)).mp hpair
            simp only [List.length_append, List.length_cons] at hfuel
            obtain ⟨rfl, parts, arguments, hparts, hpairs, hall⟩ := (ih (by omega)).mp hrest
            exact ⟨rfl, part :: parts, argument :: arguments, .cons part joint hparts,
              .cons hpart hpairs, (bind_eq_ok_iff _ _ _).mpr ⟨next, hadd, hall⟩⟩
      · rintro ⟨rfl, parts, arguments, hparts, hpairs, hall⟩
        cases hparts with
        | nil =>
            cases hpairs
            exact .inl ⟨rfl, Except.ok.inj hall, rfl⟩
        | last part =>
            obtain - | ⟨hpart, hnone⟩ := hpairs
            cases hnone
            obtain ⟨next, hadd, hnext⟩ := (bind_eq_ok_iff _ _ _).mp hall
            exact .inr ⟨hpart.ne_nil, next, [],
              (pair_eq_ok_iff .nil).mpr ⟨_, tokens, (List.append_nil _).symm, hpart, hadd⟩,
              .inl ⟨rfl, Except.ok.inj hnext, rfl⟩⟩
        | cons part joint hparts =>
            rename_i rest
            obtain - | ⟨hpart, hpairs⟩ := hpairs
            obtain ⟨next, hadd, hnext⟩ := (bind_eq_ok_iff _ _ _).mp hall
            simp only [List.length_append, List.length_cons] at hfuel
            exact .inr ⟨by simp, next, _,
              (pair_eq_ok_iff (.comma joint rest)).mpr ⟨_, part, rfl, hpart, hadd⟩,
              .inr ⟨joint, rest, rfl, (ih (by omega)).mpr ⟨rfl, _, _, hparts, hpairs, hnext⟩⟩⟩

/-! ## Reading a leading name -/

/-- A string literal comes next exactly when the first token is one. -/
theorem is_string_literal_iff {tokens : List Token} :
    isStringLiteral tokens = true ↔
      ∃ text rest, tokens = .literal text :: rest ∧ isStringText text = true := by
  unfold isStringLiteral
  split <;> simp_all

/-- Behind a leading literal nothing is left, or a comma and pairs. -/
theorem whole_of_literal {g : Grammar} {text : String} (htext : isStringText text = true)
    {rest left : List Token} {result : Arguments} :
    whole g (.literal text :: rest) = .ok (result, left) ↔
      (rest = [] ∧ { name := some [.literal text] } = result ∧ left = []) ∨
        ∃ joint more, rest = .punct ',' joint :: more ∧
          pairs g (rest.length + 1) { name := some [.literal text] } more = .ok (result, left) := by
  have hcomma : ",".toList = [','] := rfl
  have hliteral : isStringLiteral (.literal text :: rest) = true := htext
  unfold whole
  show (if isStringLiteral (.literal text :: rest) then _ else _ : Reader Arguments) _ = _ ↔ _
  rw [if_pos hliteral, reader_bind_eq_ok_iff]
  simp only [part_eq_ok_iff, string_literal_eq_some_iff]
  constructor
  · rintro ⟨_, _, ⟨_, heq, -, rfl⟩, h⟩
    cases heq
    cases rest with
    | nil =>
        rw [reader_if_at_end_nil, reader_pure_eq_ok_iff] at h
        exact .inl ⟨rfl, h⟩
    | cons token rest =>
        rw [reader_if_at_end_cons, reader_bind_eq_ok_iff] at h
        simp only [part_eq_ok_iff, symbol_char_eq_some_iff hcomma] at h
        obtain ⟨_, more, ⟨⟨joint, hjoint⟩, -⟩, h⟩ := h
        exact .inr ⟨joint, more, hjoint, h⟩
  · rintro (⟨rfl, rfl, rfl⟩ | ⟨joint, more, rfl, h⟩)
    · exact ⟨_, _, ⟨text, rfl, htext, rfl⟩, rfl⟩
    · refine ⟨_, _, ⟨text, rfl, htext, rfl⟩, ?_⟩
      rw [reader_if_at_end_cons, reader_bind_eq_ok_iff]
      simp only [part_eq_ok_iff, symbol_char_eq_some_iff hcomma]
      exact ⟨_, more, ⟨⟨joint, rfl⟩, rfl⟩, h⟩

/-- Without a leading literal all is pairs. -/
theorem whole_of_other {g : Grammar} {tokens : List Token} (h : isStringLiteral tokens = false) :
    whole g tokens = pairs g (tokens.length + 1) {} tokens := by
  unfold whole
  show (if isStringLiteral tokens then _ else _ : Reader Arguments) _ = _
  rw [h]
  rfl

/-- The arguments are what is read from all of the tokens. -/
theorem of_tokens_eq_ok_iff_whole {tokens : List Token} {result : Arguments} :
    ofTokens tokens = .ok result ↔
      ∃ left, whole (Grammar.enoughFor tokens) tokens = .ok (result, left) := by
  show (whole (Grammar.enoughFor tokens) tokens).map Prod.fst = .ok result ↔ _
  cases whole (Grammar.enoughFor tokens) tokens with
  | error rejection => simp [Except.map]
  | ok found =>
      obtain ⟨arguments, left⟩ := found
      simp [Except.map]

/-! ## Reading all arguments -/

/-- What is accepted is written by the grammar and gives the name and the parent at most once. -/
theorem of_tokens_eq_ok_iff {tokens : List Token} {result : Arguments} :
    ofTokens tokens = .ok result ↔
      ∃ written, Written (Grammar.enoughFor tokens) written tokens ∧
        ({} : Arguments).addAll written = .ok result := by
  rw [of_tokens_eq_ok_iff_whole]
  cases hliteral : isStringLiteral tokens with
  | false =>
      simp only [whole_of_other hliteral, pairs_eq_ok_iff (Nat.lt_succ_self tokens.length)]
      constructor
      · rintro ⟨_, rfl, parts, pairs, hparts, hpairs, hall⟩
        exact ⟨pairs, ⟨none, parts, pairs, .pairs hparts, hpairs, rfl⟩, hall⟩
      · rintro ⟨_, ⟨lead, parts, pairs, hlisting, hpairs, rfl⟩, hall⟩
        cases hlisting with
        | pairs hparts => exact ⟨[], rfl, parts, pairs, hparts, hpairs, hall⟩
        | alone htext => exact absurd hliteral (by simpa [isStringLiteral] using htext)
        | leading joint htext => exact absurd hliteral (by simpa [isStringLiteral] using htext)
  | true =>
      obtain ⟨text, rest, rfl, htext⟩ := is_string_literal_iff.mp hliteral
      simp only [whole_of_literal htext]
      constructor
      · rintro ⟨left, ⟨rfl, rfl, -⟩ | ⟨joint, more, rfl, hmore⟩⟩
        · exact ⟨_, ⟨some text, [], [], .alone htext, .nil, rfl⟩, rfl⟩
        · have hfuel : more.length < (.punct ',' joint :: more : List Token).length + 1 := by
            simp only [List.length_cons]
            omega
          obtain ⟨rfl, parts, pairs, hparts, hpairs, hall⟩ := (pairs_eq_ok_iff hfuel).mp hmore
          exact ⟨_, ⟨some text, parts, pairs, .leading joint htext hparts, hpairs, rfl⟩, hall⟩
      · rintro ⟨_, ⟨lead, parts, pairs, hlisting, hpairs, rfl⟩, hall⟩
        cases hlisting with
        | pairs hparts => exact absurd hliteral (by simp [no_literal_of_separated hparts hpairs])
        | alone =>
            cases hpairs
            exact ⟨[], .inl ⟨rfl, Except.ok.inj hall, rfl⟩⟩
        | @leading _ joint _ more _ hparts =>
            have hfuel : more.length < (.punct ',' joint :: more : List Token).length + 1 := by
              simp only [List.length_cons]
              omega
            exact ⟨[], .inr ⟨joint, more, rfl,
              (pairs_eq_ok_iff hfuel).mpr ⟨rfl, parts, pairs, hparts, hpairs, hall⟩⟩⟩

/-- Arguments that are written by the grammar are accepted with the name and the parent that they
give, if they give each at most once. -/
theorem of_tokens_of_written {tokens : List Token} {written : List Argument} {result : Arguments}
    (h : Written (Grammar.enoughFor tokens) written tokens) :
    ofTokens tokens = .ok result ↔
      result.name.toList = written.filterMap Argument.name? ∧
        result.parent.toList = written.filterMap Argument.parent? := by
  rw [of_tokens_eq_ok_iff]
  have hall := add_all_eq_ok_iff {} written result
  simp only [Option.toList_none, List.nil_append] at hall
  rw [← hall]
  constructor
  · rintro ⟨written', h', hall'⟩
    rwa [written_unique h h']
  · exact fun hall ↦ ⟨written, h, hall⟩

/-! ## Order -/

/-- The number of tokens, those in groups included, does not depend on their order. -/
theorem count_perm {tokens tokens' : List Token} (h : tokens.Perm tokens') :
    Token.countList tokens = Token.countList tokens' := by
  induction h with
  | nil => rfl
  | cons token _ ih => rw [Token.countList, Token.countList, ih]
  | swap first second rest =>
      simp only [Token.countList]
      omega
  | trans _ _ ih ih' => rw [ih, ih']

/-- The tokens of parts are those of the parts and some marks, each of them one token. -/
theorem separated_counts {parts : List (List Token)} {tokens : List Token}
    (h : Separated parts tokens) :
    ∃ marks, tokens.length = parts.flatten.length + marks ∧
      Token.countList tokens = Token.countList parts.flatten + marks := by
  induction h with
  | nil => exact ⟨0, rfl, rfl⟩
  | last part => exact ⟨0, by simp, by simp⟩
  | cons part joint _ ih =>
      obtain ⟨marks, hlength, hcount⟩ := ih
      refine ⟨marks + 1, ?_, ?_⟩
      · simp only [List.length_append, List.length_cons, List.flatten_cons]
        omega
      · simp only [count_append, Token.countList, Token.count, List.flatten_cons]
        omega

/-- A listing has the tokens of its parts and some marks besides. -/
theorem listing_counts {lead : Option String} {parts : List (List Token)} {tokens : List Token}
    (h : Listing lead parts tokens) :
    ∃ marks, tokens.length = parts.flatten.length + marks ∧
      Token.countList tokens = Token.countList parts.flatten + marks := by
  cases h with
  | pairs hparts => exact separated_counts hparts
  | alone => exact ⟨1, rfl, rfl⟩
  | leading joint _ hparts =>
      obtain ⟨marks, hlength, hcount⟩ := separated_counts hparts
      refine ⟨marks + 2, ?_, ?_⟩
      · simp only [List.length_cons]
        omega
      · simp only [Token.countList, Token.count]
        omega

/-- The same grammar is enough for the same parts in another order, with as many marks. -/
theorem enough_for_perm {lead : Option String} {parts parts' : List (List Token)}
    {tokens tokens' : List Token} (h : Listing lead parts tokens)
    (h' : Listing lead parts' tokens') (hperm : parts.Perm parts')
    (hlength : tokens'.length = tokens.length) :
    Grammar.enoughFor tokens' = Grammar.enoughFor tokens := by
  obtain ⟨marks, hlength₁, hcount₁⟩ := listing_counts h
  obtain ⟨marks', hlength₂, hcount₂⟩ := listing_counts h'
  have hlengths := hperm.flatten.length_eq
  have hcounts := count_perm hperm.flatten
  unfold Grammar.enoughFor
  congr 2
  omega

/-- The list of a value that may be missing has one order only. -/
theorem to_list_eq_iff_of_perm {α : Type} {value : Option α} {first second : List α}
    (h : first.Perm second) : value.toList = first ↔ value.toList = second := by
  have hside {first second : List α} (h : first.Perm second) (hfirst : value.toList = first) :
      value.toList = second := by
    subst hfirst
    cases value with
    | none => exact h.nil_eq
    | some only => exact (List.singleton_perm.mp h)
  exact ⟨hside h, hside h.symm⟩

/-- A list of one value at most is the list of a value that may be missing. -/
theorem exists_to_list {α : Type} {values : List α} (h : values.length ≤ 1) :
    ∃ value : Option α, value.toList = values := by
  match values, h with
  | [], _ => exact ⟨none, rfl⟩
  | [only], _ => exact ⟨some only, rfl⟩

/-- An outcome holds a value exactly when it is that value. -/
theorem to_option_eq_some_iff {ε α : Type} {outcome : Except ε α} {value : α} :
    outcome.toOption = some value ↔ outcome = .ok value := by
  cases outcome <;> simp [Except.toOption]

/-- The arguments of a declaration are accepted exactly when they are written by their grammar, and
give the name and the parent at most once; what is accepted carries what they give; and in another
order the same pairs give the same. -/
theorem arguments_follow_grammar (tokens : List Token) :
    ((∃ result, ofTokens tokens = .ok result) ↔
      ∃ written, Written (Grammar.enoughFor tokens) written tokens ∧
        (written.filterMap Argument.name?).length ≤ 1 ∧
        (written.filterMap Argument.parent?).length ≤ 1) ∧
    (∀ result written, ofTokens tokens = .ok result →
      Written (Grammar.enoughFor tokens) written tokens →
        result.name.toList = written.filterMap Argument.name? ∧
          result.parent.toList = written.filterMap Argument.parent?) ∧
    ∀ lead parts parts' tokens', Listing lead parts tokens →
      (∀ part ∈ parts, ∃ argument, IsPair (Grammar.enoughFor tokens) argument part) →
      parts.Perm parts' → Listing lead parts' tokens' → tokens'.length = tokens.length →
        (ofTokens tokens').toOption = (ofTokens tokens).toOption := by
  refine ⟨⟨?_, ?_⟩, ?_, ?_⟩
  · rintro ⟨result, hresult⟩
    obtain ⟨written, hwritten, -⟩ := of_tokens_eq_ok_iff.mp hresult
    obtain ⟨hname, hparent⟩ := (of_tokens_of_written hwritten).mp hresult
    refine ⟨written, hwritten, ?_, ?_⟩
    · rw [← hname]
      cases result.name <;> simp
    · rw [← hparent]
      cases result.parent <;> simp
  · rintro ⟨written, hwritten, hnames, hparents⟩
    obtain ⟨name, hname⟩ := exists_to_list hnames
    obtain ⟨parent, hparent⟩ := exists_to_list hparents
    exact ⟨⟨name, parent⟩, (of_tokens_of_written hwritten).mpr ⟨hname, hparent⟩⟩
  · exact fun result written hresult hwritten ↦ (of_tokens_of_written hwritten).mp hresult
  · intro lead parts parts' tokens' hlisting hparts hperm hlisting' hlength
    obtain ⟨pairs, hpairs⟩ := exists_forall₂_iff.mpr hparts
    obtain ⟨pairs', hpairs', hsame⟩ := List.perm_comp_forall₂ hperm.symm hpairs
    have hwritten : Written (Grammar.enoughFor tokens) (leadingArgument lead ++ pairs) tokens :=
      ⟨lead, parts, pairs, hlisting, hpairs.flip, rfl⟩
    have hwritten' :
        Written (Grammar.enoughFor tokens') (leadingArgument lead ++ pairs') tokens' := by
      rw [enough_for_perm hlisting hlisting' hperm hlength]
      exact ⟨lead, parts', pairs', hlisting', hpairs'.flip, rfl⟩
    have harguments := hsame.append_left (leadingArgument lead)
    refine Option.ext fun result ↦ ?_
    rw [to_option_eq_some_iff, to_option_eq_some_iff, of_tokens_of_written hwritten,
      of_tokens_of_written hwritten', to_list_eq_iff_of_perm (harguments.filterMap _),
      to_list_eq_iff_of_perm (harguments.filterMap _)]

/-- The arguments that name an endpoint in an example. -/
def nameArgument : List Token :=
  [.ident "name", .punct '=' false, .literal "\"orders\""]

/-- The arguments that extend a type in an example. -/
def parentArgument : List Token :=
  [.ident "extends", .punct '=' false, .ident "BaseEndpoint"]

/-- A name and a parent give the same in both orders. -/
theorem arguments_in_any_order :
    (ofTokens (nameArgument ++ .punct ',' false :: parentArgument)).toOption =
      (ofTokens (parentArgument ++ .punct ',' false :: nameArgument)).toOption := by
  refine (arguments_follow_grammar _).2.2 none [parentArgument, nameArgument]
    [nameArgument, parentArgument] _ (.pairs (.cons _ _ (.last _))) ?_ (.swap _ _ _)
    (.pairs (.cons _ _ (.last _))) rfl
  intro part hpart
  simp only [List.mem_cons, List.not_mem_nil, or_false] at hpart
  rcases hpart with rfl | rfl
  · have hbase : (Grammar.enoughFor (parentArgument ++ .punct ',' false :: nameArgument)).type true
        [.ident "BaseEndpoint"] = some (⟨.path "BaseEndpoint" true, [.ident "BaseEndpoint"]⟩, []) :=
      rfl
    exact ⟨_, .parent false hbase⟩
  · exact ⟨_, .name false rfl⟩

example : ofTokens (nameArgument ++ .punct ',' false :: parentArgument) =
    .ok ⟨some [.literal "\"orders\""], some [.ident "BaseEndpoint"]⟩ := rfl

end Arguments

end EndpointGuard.Declare
