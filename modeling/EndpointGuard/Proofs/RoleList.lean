import EndpointGuard.Proofs.CommaList
import EndpointGuard.Proofs.MarkerAttribute
import EndpointGuard.Proofs.TypeLocality

/-!
# Lists of roles

The roles of a marker are expressions with commas between them, each of them a string literal or a
path. An expression can go on behind an operand in many ways, and then it is neither: `Unnamed` and
`Keeps` say so of the parsers, one instance for each way to put them together. What is left is a
short parser, `namedExpression`, that reads alike in front of breaks as types do. Read
`exists_roles_iff` first: roles are read exactly from lists of roles.
-/

namespace EndpointGuard.Source

open Source.Parser

/-- The expression is a string literal or a path. -/
def Expression.IsNamed (expression : Expression) : Prop :=
  expression.kind = .stringLiteral ∨ expression.kind = .path

/-- What the parser reads is neither a string literal nor a path. -/
class Unnamed (p : Parser Expression) : Prop where
  not_named : ∀ {tokens left : List Token} {result : Expression},
    p tokens = some (result, left) → ¬ result.IsNamed

/-- The parser reads no string literal and no path but the one that was read before, and then
nothing. -/
class Keeps (first : Expression) (p : Parser Expression) : Prop where
  eq : ∀ {tokens left : List Token} {result : Expression},
    p tokens = some (result, left) → result.IsNamed → result = first ∧ left = tokens

section

set_option synthInstance.maxSize 20000

variable {α : Type} {g : Grammar} {tokens left : List Token} {first result : Expression}
  {p q : Parser Expression} {f : α → Parser Expression}

/-- A given expression of another kind is neither a string literal nor a path. -/
theorem Unnamed.of_pure {kind : ExpressionKind} (hstring : kind ≠ .stringLiteral)
    (hpath : kind ≠ .path) (tokens : List Token) :
    Unnamed (pure ⟨kind, tokens⟩) where
  not_named h hnamed := by
    cases h
    exact hnamed.elim hstring hpath

instance unnamed_other (tokens : List Token) : Unnamed (pure ⟨.other, tokens⟩) :=
  .of_pure (by decide) (by decide) tokens

instance unnamed_range (tokens : List Token) : Unnamed (pure ⟨.range, tokens⟩) :=
  .of_pure (by decide) (by decide) tokens

instance unnamed_block (tokens : List Token) : Unnamed (pure ⟨.block, tokens⟩) :=
  .of_pure (by decide) (by decide) tokens

instance unnamed_macro_call (braces : Bool) (tokens : List Token) :
    Unnamed (pure ⟨.macroCall braces, tokens⟩) :=
  .of_pure (by simp) (by simp) tokens

instance unnamed_failure : Unnamed failure where
  not_named h := by cases h

instance unnamed_bind {step : Parser α} [hf : ∀ value, Unnamed (f value)] :
    Unnamed (step >>= f) where
  not_named h := by
    obtain ⟨value, middle, -, hrest⟩ := bind_eq_some_iff.mp h
    exact (hf value).not_named hrest

instance unnamed_bind_option {step : Parser (Option α)} {next : Option α → Parser Expression}
    [hnone : Unnamed (next none)] [hsome : ∀ value, Unnamed (next (some value))] :
    Unnamed (step >>= next) where
  not_named h := by
    obtain ⟨value, middle, -, hrest⟩ := bind_eq_some_iff.mp h
    cases value with
    | none => exact hnone.not_named hrest
    | some value => exact (hsome value).not_named hrest

instance unnamed_ite {c : Prop} [Decidable c] [Unnamed p] [Unnamed q] :
    Unnamed (if c then p else q) := by
  split <;> assumption

instance (priority := low) keeps_of_unnamed [h : Unnamed p] : Keeps first p where
  eq hread hnamed := absurd hnamed (h.not_named hread)

instance keeps_pure : Keeps first (pure first) where
  eq h _ := by
    cases h
    exact ⟨rfl, rfl⟩

instance keeps_ahead (look : Ahead) {next : Bool → Parser Expression}
    [hnext : ∀ seen, Keeps first (next seen)] : Keeps first (ahead look >>= next) where
  eq h := (hnext _).eq h

instance keeps_ite {c : Prop} [Decidable c] [Keeps first p] [Keeps first q] :
    Keeps first (if c then p else q) := by
  split <;> assumption

/-- A parser that keeps what is no name reads no name. -/
theorem Keeps.unnamed (h : Keeps first p) (hfirst : ¬ first.IsNamed) : Unnamed p where
  not_named hread hnamed := by
    obtain ⟨rfl, -⟩ := h.eq hread hnamed
    exact hfirst hnamed

/-! ## Behind a name -/

/-- With an operator behind an operand, the whole is no name. -/
instance keeps_operators (allowStruct : Bool) (fuel : Nat) (base : Strength) (first : Expression) :
    Keeps first (operatorsBehind g allowStruct fuel base first) := by
  induction fuel generalizing base first with
  | zero =>
      unfold operatorsBehind
      infer_instance
  | succ fuel ih =>
      have hother (tokens : List Token) :
          Unnamed (operatorsBehind g allowStruct fuel base ⟨.other, tokens⟩) :=
        (ih base _).unnamed (by simp [Expression.IsNamed])
      have hbinary (strength : Strength) (tokens : List Token) :
          Unnamed (operatorsBehind g allowStruct fuel base
            ⟨if strength = .comparison then .comparison else .other, tokens⟩) :=
        (ih base _).unnamed (by split <;> simp [Expression.IsNamed])
      constructor
      intro tokens left result h hnamed
      unfold operatorsBehind at h
      split at h
      · exact keeps_pure.eq h hnamed
      · rw [get_bind] at h
        cases hoperator : binaryOperator? tokens with
        | none =>
            rw [hoperator] at h
            exact Keeps.eq h hnamed
        | some operator =>
            rw [hoperator] at h
            exact Keeps.eq h hnamed

instance keeps_trailers (fuel : Nat) (first : Expression) :
    Keeps first (trailersFuel g fuel first) := by
  induction fuel generalizing first with
  | zero =>
      unfold trailersFuel
      infer_instance
  | succ fuel ih =>
      have hother (tokens : List Token) : Unnamed (trailersFuel g fuel ⟨.other, tokens⟩) :=
        (ih _).unnamed (by simp [Expression.IsNamed])
      unfold trailersFuel
      infer_instance

/-- At a break no operator comes next. -/
theorem binary_operator_at_break (h : AtBreak tokens) : binaryOperator? tokens = none := by
  cases h <;> rfl

/-- In front of a break no operator follows. -/
theorem operators_at_break (allowStruct : Bool) (fuel : Nat) (base : Strength)
    (h : AtBreak tokens) :
    operatorsBehind g allowStruct (fuel + 1) base first tokens = some (first, tokens) := by
  unfold operatorsBehind
  split
  · rfl
  · rw [get_bind, binary_operator_at_break h]
    have hassignment : isAssignment tokens = false := by cases h <;> rfl
    have hrange : isSymbol ".." tokens = false := by cases h <;> rfl
    have hcast : isWord "as" tokens = false := by cases h <;> rfl
    simp only [ahead_bind, hassignment, hrange, hcast, Bool.and_false, Bool.false_eq_true, if_false]
    rfl

/-- In front of a break nothing else follows. -/
theorem trailers_at_break (fuel : Nat) (h : AtBreak tokens) :
    trailersFuel g (fuel + 1) first tokens = some (first, tokens) := by
  unfold trailersFuel
  have hparen : isGroup .paren tokens = false := by cases h <;> rfl
  have hdot : isDot tokens = false := by cases h <;> rfl
  have hbracket : isGroup .bracket tokens = false := by cases h <;> rfl
  have hquestion : isSymbol "?" tokens = false := by cases h <;> rfl
  simp only [ahead_bind, hparen, hdot, hbracket, hquestion, Bool.and_false, Bool.false_eq_true,
    if_false]
  rfl

/-! ## Names -/

/-- A path that is no macro and no structure. -/
def plainPath (g : Grammar) : Parser Expression := do
  let (qualified, path) ← qualifiedPath g true
  if !qualified && path.plain && (← ahead isMacroMark) then failure
  else if ← ahead (isGroup .brace) then failure
  else return ⟨.path, path.tokens⟩

/-- A literal, or a path that is no macro and no structure. -/
def nameAtom (g : Grammar) : Parser Expression := do
  if ← ahead isLiteral then literalExpression
  else if ← ahead isPathExpression then plainPath g
  else failure

/-- The same, perhaps behind attributes. -/
def namedExpression (g : Grammar) : Parser Expression := do
  let attrs ← outerTokens g
  if ← ahead (isSymbol "&") then failure
  else if ← ahead (anyOf [isSymbol "*", isSymbol "!", isSymbol "-"]) then failure
  else
    let expression ← nameAtom g
    return ⟨expression.kind, attrs ++ expression.tokens⟩

/-- What can begin a path can begin neither a block nor a closure. -/
theorem no_closure_of_path (h : isPathExpression tokens = true) :
    isAsyncBlock tokens = false ∧ isClosure tokens = false := by
  cases tokens with
  | nil => cases h
  | cons token rest =>
    cases token with
    | ident name =>
        by_cases hword : name ∈ ["async", "move", "static", "for", "const"]
        · simp only [List.mem_cons, List.not_mem_nil, or_false] at hword
          rcases hword with rfl | rfl | rfl | rfl | rfl <;> cases h
        · simp only [List.mem_cons, List.not_mem_nil, or_false, not_or] at hword
          simp [isAsyncBlock, isClosure, isBoundClosure, anyOf, isWord, isWordOf, isSymbol,
            dropSymbolChars, hword]
    | punct c joint =>
        by_cases hbar : c = '|'
        · subst hbar
          cases h
        · simp [isAsyncBlock, isClosure, isBoundClosure, anyOf, isWord, isWordOf, isSymbol,
            dropSymbolChars, Ne.symm hbar]
    | literal text => cases h
    | group delimiter body => cases h

/-- A path that is read as such is neither a macro nor a structure. -/
theorem path_named_iff (hresult : result.IsNamed) :
    pathExpression g true tokens = some (result, left) ↔
      plainPath g tokens = some (result, left) := by
  unfold pathExpression plainPath
  rw [bind_eq_some_iff, bind_eq_some_iff]
  refine exists_congr fun found ↦ exists_congr fun middle ↦ and_congr_right fun _ ↦ ?_
  obtain ⟨qualified, path⟩ := found
  dsimp only
  rw [ahead_bind, ahead_bind]
  split
  · simp only [failure_eq_none, reduceCtorEq, iff_false]
    exact fun h ↦ Unnamed.not_named h hresult
  · rw [ahead_bind, ahead_bind, Bool.true_and]
    split
    · simp only [failure_eq_none, reduceCtorEq, iff_false]
      exact fun h ↦ Unnamed.not_named h hresult
    · rfl

/-- An atom that is a string literal or a path is read as such. -/
theorem atom_named_iff (hresult : result.IsNamed) :
    atom g true tokens = some (result, left) ↔ nameAtom g tokens = some (result, left) := by
  unfold atom nameAtom
  cases hliteral : isLiteral tokens with
  | true =>
      rw [if_ahead_of_true _ _ hliteral, if_ahead_of_true _ _ hliteral]
  | false =>
      rw [if_ahead_of_false _ _ hliteral, if_ahead_of_false _ _ hliteral]
      cases hpath : isPathExpression tokens with
      | true =>
          obtain ⟨hasync, hclosure⟩ := no_closure_of_path hpath
          rw [if_ahead_of_false _ _ hasync, if_ahead_of_false _ _ hclosure,
            if_ahead_of_true _ _ hpath, if_ahead_of_true _ _ hpath]
          exact path_named_iff hresult
      | false =>
          -- What begins neither a literal nor a path is read as something that is no name.
          have hnone : (do if ← ahead isPathExpression then plainPath g else failure :
              Parser Expression) tokens = none := if_ahead_of_false _ _ hpath
          rw [hnone]
          refine iff_of_false ?_ nofun
          intro h
          cases hasync : isAsyncBlock tokens with
          | true =>
              rw [if_ahead_of_true _ _ hasync] at h
              exact Unnamed.not_named h hresult
          | false =>
              rw [if_ahead_of_false _ _ hasync] at h
              cases hclosure : isClosure tokens with
              | true =>
                  rw [if_ahead_of_true _ _ hclosure] at h
                  exact Unnamed.not_named h hresult
              | false =>
                  rw [if_ahead_of_false _ _ hclosure, if_ahead_of_false _ _ hpath] at h
                  exact Unnamed.not_named h hresult

/-- In front of a break, an expression without infix operators that is a string literal or a path is
read as such. -/
theorem unary_named_iff (hresult : result.IsNamed) (hbreak : AtBreak left) :
    unaryRule g true tokens = some (result, left) ↔
      namedExpression g tokens = some (result, left) := by
  unfold unaryRule namedExpression
  rw [bind_eq_some_iff, bind_eq_some_iff]
  refine exists_congr fun attrs ↦ exists_congr fun middle ↦ and_congr_right fun _ ↦ ?_
  cases hreference : isSymbol "&" middle with
  | true =>
      rw [if_ahead_of_true _ _ hreference, if_ahead_of_true _ _ hreference]
      exact iff_of_false (fun h ↦ Unnamed.not_named h hresult) nofun
  | false =>
      rw [if_ahead_of_false _ _ hreference, if_ahead_of_false _ _ hreference]
      cases hprefix : anyOf [isSymbol "*", isSymbol "!", isSymbol "-"] middle with
      | true =>
          rw [if_ahead_of_true _ _ hprefix, if_ahead_of_true _ _ hprefix]
          exact iff_of_false (fun h ↦ Unnamed.not_named h hresult) nofun
      | false =>
          rw [if_ahead_of_false _ _ hprefix, if_ahead_of_false _ _ hprefix]
          simp only [bind_eq_some_iff]
          constructor
          · rintro ⟨first, behind, hatom, expression, behind', htrailers, h⟩
            split at h
            · cases h
            · cases h
              have hexpression : expression.IsNamed := hresult
              -- It is still a name behind the trailers, so there are none.
              obtain ⟨rfl, rfl⟩ := (keeps_trailers _ first).eq htrailers hexpression
              exact ⟨_, _, (atom_named_iff hexpression).mp hatom, rfl⟩
          · rintro ⟨expression, behind, hatom, h⟩
            cases h
            have hexpression : expression.IsNamed := hresult
            have hkind : ¬ expression.kind = .range := by
              rcases hexpression with hkind | hkind <;> rw [hkind] <;> decide
            refine ⟨expression, left, (atom_named_iff hexpression).mpr hatom, expression, left,
              trailers_at_break _ hbreak, ?_⟩
            rw [if_neg (by simp [hkind])]
            rfl

/-- In front of a break, an expression that is a string literal or a path is read as such. -/
theorem expression_named_iff (hresult : result.IsNamed) (hbreak : AtBreak left) :
    expressionRule g true tokens = some (result, left) ↔
      namedExpression g tokens = some (result, left) := by
  rw [← unary_named_iff hresult hbreak]
  unfold expressionRule
  rw [bind_eq_some_iff]
  constructor
  · rintro ⟨first, middle, hfirst, hoperators⟩
    obtain ⟨rfl, rfl⟩ := (keeps_operators true _ _ first).eq hoperators hresult
    exact hfirst
  · intro h
    exact ⟨result, left, h, operators_at_break true _ _ hbreak⟩

instance apart_minus : Apart "-" := ⟨by decide, by decide⟩

instance advances_literal_expression {a b : Limit} :
    Advances a b literalExpression literalExpression := by
  unfold literalExpression
  infer_instance

instance steady_is_path_expression : Steady isPathExpression := by
  unfold isPathExpression
  infer_instance

instance advances_plain_path [LocalTypes g] {a b : Limit} :
    Advances a b (plainPath g) (plainPath g) := by
  unfold plainPath
  infer_instance

instance advances_name_atom [LocalTypes g] {a b : Limit} :
    Advances a b (nameAtom g) (nameAtom g) := by
  unfold nameAtom
  infer_instance

instance advances_named_expression [LocalTypes g] {a b : Limit} :
    Advances a b (namedExpression g) (namedExpression g) := by
  unfold namedExpression
  infer_instance

/-- In front of a break, an expression that is a string literal or a path is read as it is read
alone. -/
theorem expression_before_break_iff [LocalTypes g] (hresult : result.IsNamed)
    (hbreak : AtBreak left) :
    expressionRule g true tokens = some (result, left) ↔
      ∃ front, front ≠ [] ∧ tokens = front ++ left ∧
        expressionRule g true front = some (result, []) := by
  rw [expression_named_iff hresult hbreak,
    read_before_break_iff (p := namedExpression g) (fun _ _ ↦ inferInstance) hbreak]
  refine exists_congr fun front ↦ ?_
  rw [expression_named_iff hresult .nil]
  constructor
  · rintro ⟨rfl, hfront⟩
    have hless := Advances.less (a := ⟨front.length + 1, Token.countList front + 1⟩)
      (b := ⟨0, 0⟩) (q := namedExpression g) ⟨Nat.lt_succ_self _, Nat.lt_succ_self _⟩ hfront
    exact ⟨hless.symm, rfl, hfront⟩
  · rintro ⟨-, rfl, hfront⟩
    exact ⟨rfl, hfront⟩

end

end EndpointGuard.Source

namespace EndpointGuard.Declare

open Source Source.Parser

/-- The tokens are, as a whole, a string literal or a path. -/
def IsRole (g : Grammar) (part : List Token) : Prop :=
  ∃ expression, g.expression true part = some (expression, []) ∧ expression.IsNamed

/-- The tokens are roles with commas between them. -/
def IsRoleList (tokens : List Token) : Prop :=
  ∃ parts, Separated parts tokens ∧ ∀ part ∈ parts, IsRole (Grammar.enoughFor tokens) part

/-- String literals and paths are the expressions that name a role. -/
theorem exists_names_role_iff (expression : Expression) :
    (∃ role, NamesRole expression role) ↔ expression.IsNamed := by
  constructor
  · rintro ⟨role, hkind | hkind⟩
    · exact .inl hkind
    · exact .inr hkind
  · rintro (hkind | hkind)
    · exact ⟨_, .text hkind⟩
    · exact ⟨_, .constant hkind⟩

/-- The expressions of arguments are those that the loop for lists with commas reads. -/
theorem expressions_of_eq_some_iff {tokens : List Token} {expressions : List Expression} :
    expressionsOf? tokens = some expressions ↔
      ∃ found, itemsFuel atEnd ((Grammar.enoughFor tokens).expression true) (tokens.length + 1)
        tokens = some (found, []) ∧ found.map Prod.fst = expressions := by
  unfold expressionsOf? Grammar.read
  simp only [Option.map_eq_some_iff, all_eq_some_iff]
  rfl

/-- The arguments of an attribute name roles exactly when they are a list of string literals and
paths. -/
theorem exists_roles_iff (delimiter : Delimiter) (tokens : List Token) :
    (∃ roles, rolesOf (.arguments delimiter tokens) = .ok roles) ↔ IsRoleList tokens := by
  have hitems (expressions : List Expression) :
      expressionsOf? tokens = some expressions ∧ (∀ e ∈ expressions, e.IsNamed) ↔
        ∃ parts, Separated parts tokens ∧ List.Forall₂ (fun part (e : Expression) ↦
          (Grammar.enoughFor tokens).expression true part = some (e, []) ∧ e.IsNamed)
          parts expressions := by
    rw [expressions_of_eq_some_iff, items_iff ((Grammar.enoughFor tokens).expression true)
      Expression.IsNamed (fun h hbreak ↦ expression_before_break_iff h hbreak)
      (Nat.lt_succ_self tokens.length)]
    simp
  constructor
  · rintro ⟨roles, hroles⟩
    obtain ⟨_, _, expressions, heq, hexpressions, hnames⟩ := (roles_of_eq_ok_iff _ roles).mp hroles
    cases heq
    have hnamed := exists_forall₂_iff.mp ⟨roles, hnames⟩
    simp only [exists_names_role_iff] at hnamed
    obtain ⟨parts, hparts, hread⟩ := (hitems expressions).mp ⟨hexpressions, hnamed⟩
    exact ⟨parts, hparts, exists_forall₂_iff.mp ⟨expressions, hread⟩⟩
  · rintro ⟨parts, hparts, hroles⟩
    obtain ⟨expressions, hread⟩ := exists_forall₂_iff.mpr hroles
    obtain ⟨hexpressions, hnamed⟩ := (hitems expressions).mpr ⟨parts, hparts, hread⟩
    simp only [← exists_names_role_iff] at hnamed
    obtain ⟨roles, hnames⟩ := exists_forall₂_iff.mpr hnamed
    exact ⟨roles, (roles_of_eq_ok_iff _ roles).mpr ⟨_, _, expressions, rfl, hexpressions, hnames⟩⟩

end EndpointGuard.Declare
