import EndpointGuard.Proofs.Locality
import EndpointGuard.Source.Grammar.Whole

/-!
# Types do not depend on what stands behind them

The rules of types read alike in front of breaks, one instance for each rule in the order in which
the rules use one another. `local_types` is the conclusion: it holds of the grammar at every depth,
by induction on the depth. `alike_rules` is the induction over bounds and arguments, which need one
another and are nested once for every token. Where these rules read a token first, one level of
nesting less is left for the rest; the instances whose names end in `count` say so.
-/

namespace EndpointGuard.Source

open Source.Parser

/-- What the parts of a grammar read as types does not depend on what stands behind a break. -/
class LocalTypes (g : Grammar) : Prop where
  type : ∀ a b sums, Alike a b (g.type sums) (g.type sums)

variable {a b : Limit} {k l n m : Nat} {g : Grammar}

instance alike_type [types : LocalTypes g] (sums : Bool) : Alike a b (g.type sums) (g.type sums) :=
  types.type a b sums

/-! ## Symbols -/

instance apart_less : Apart "<" := ⟨by decide, by decide⟩
instance apart_less_equal : Apart "<=" := ⟨by decide, by decide⟩
instance apart_greater : Apart ">" := ⟨by decide, by decide⟩
instance apart_arrow : Apart "->" := ⟨by decide, by decide⟩
instance apart_plus : Apart "+" := ⟨by decide, by decide⟩
instance apart_equal : Apart "=" := ⟨by decide, by decide⟩
instance apart_colon : Apart ":" := ⟨by decide, by decide⟩
instance apart_question : Apart "?" := ⟨by decide, by decide⟩
instance apart_tilde : Apart "~" := ⟨by decide, by decide⟩
instance apart_star : Apart "*" := ⟨by decide, by decide⟩
instance apart_ampersand : Apart "&" := ⟨by decide, by decide⟩
instance apart_bang : Apart "!" := ⟨by decide, by decide⟩
instance apart_not_equal : Apart "!=" := ⟨by decide, by decide⟩
instance apart_number : Apart "#" := ⟨by decide, by decide⟩

/-! ## Attributes -/

instance advances_outer_attribute : Advances a b (outerAttribute g) (outerAttribute g) := by
  unfold outerAttribute
  infer_instance

/-- The loop over attributes goes forward. -/
theorem forward_attributes_fuel (look : Ahead) (one : Parser Attribute) [Forward one] :
    ∀ k, Forward (attributesFuel look one k)
  | 0 => by unfold attributesFuel; infer_instance
  | k + 1 => by
      have := forward_attributes_fuel look one k
      unfold attributesFuel
      infer_instance

/-- The loop over attributes reads alike if each attribute takes a token. -/
theorem alike_attributes_fuel (look : Ahead) [Steady look] (one : Parser Attribute)
    [hone : ∀ a b, Advances a b one one] :
    ∀ k l, Alike ⟨k, n⟩ ⟨l, m⟩ (attributesFuel look one k) (attributesFuel look one l) := by
  refine .of_step (forward_attributes_fuel look one) fun k l ih ↦ ?_
  unfold attributesFuel
  infer_instance

instance alike_outer_attributes : Alike a b (outerAttributes g) (outerAttributes g) :=
  .of_steps (alike_attributes_fuel (isSymbol "#") (outerAttribute g))

instance alike_outer_tokens : Alike a b (outerTokens g) (outerTokens g) := by
  unfold outerTokens
  infer_instance

/-! ## Arguments and bounds -/

instance alike_constant_argument : Alike a b (constantArgument g) (constantArgument g) := by
  unfold constantArgument blockWithAttributes
  infer_instance

instance alike_bound_lifetimes (parameter : Grammar → Parser (Bool × List Token))
    [∀ a b, Alike a b (parameter g) (parameter g)] :
    Alike a b (boundLifetimes g parameter) (boundLifetimes g parameter) := by
  unfold boundLifetimes
  infer_instance

instance alike_return_type [LocalTypes g] (sums : Bool) :
    Alike a b (returnType g sums) (returnType g sums) := by
  unfold returnType
  infer_instance

instance alike_parenthesized_arguments [LocalTypes g] :
    Alike a b (parenthesizedArguments g) (parenthesizedArguments g) := by
  unfold parenthesizedArguments
  infer_instance

instance steady_is_parenthesized : Steady isParenthesized := by
  unfold isParenthesized
  infer_instance

instance alike_with_parenthesized [LocalTypes g] (path : PathForm) :
    Alike a b (withParenthesized g path) (withParenthesized g path) := by
  unfold withParenthesized
  infer_instance

section rules

set_option synthInstance.maxSize 200000

variable {α : Type} {p q : Parser (List Token)}

instance forward_segment [Forward p] (inExpression : Bool) : Forward (segment p inExpression) := by
  unfold segment
  dsimp only
  infer_instance

instance advances_segment [Alike a b p q] (inExpression : Bool) :
    Advances a b (segment p inExpression) (segment q inExpression) := by
  unfold segment
  dsimp only
  infer_instance

instance advances_segment_count [∀ k l, Alike ⟨k, n⟩ ⟨l, m⟩ p q] (inExpression : Bool) :
    Advances ⟨k, n + 1⟩ ⟨l, m + 1⟩ (segment p inExpression) (segment q inExpression) := by
  unfold segment
  dsimp only
  infer_instance

/-- The loop over further segments of a path goes forward. -/
theorem forward_more_segments [Forward p] (inExpression : Bool) (goesOn : Ahead) :
    ∀ k path, Forward (moreSegments p inExpression goesOn k path)
  | 0, _ => by unfold moreSegments; infer_instance
  | k + 1, _ => by
      have := forward_more_segments inExpression goesOn k
      unfold moreSegments
      infer_instance

/-- The further segments of a path read alike with any numbers of steps that are enough. -/
theorem alike_more_segments [∀ k l, Alike ⟨k, n⟩ ⟨l, m⟩ p q] [Forward p] (inExpression : Bool)
    (goesOn : Ahead) [Steady goesOn] :
    ∀ k l path, Alike ⟨k, n⟩ ⟨l, m⟩ (moreSegments p inExpression goesOn k path)
      (moreSegments q inExpression goesOn l path)
  | 0, _, _ => .of_left_zero
  | k + 1, 0, path => by
      have : Forward (moreSegments p inExpression goesOn (k + 1) path) :=
        forward_more_segments inExpression goesOn (k + 1) path
      exact .of_right_zero
  | k + 1, l + 1, _ => by
      have := alike_more_segments inExpression goesOn k l
      unfold moreSegments
      infer_instance

instance alike_all_segments [∀ k l, Alike ⟨k, a.count⟩ ⟨l, b.count⟩ p q] [Forward p]
    (inExpression : Bool) (goesOn : Ahead) [Steady goesOn] (path : PathForm) :
    Alike a b (fun tokens ↦ moreSegments p inExpression goesOn (tokens.length + 1) path tokens)
      (fun tokens ↦ moreSegments q inExpression goesOn (tokens.length + 1) path tokens) :=
  .of_steps fun k l ↦ alike_more_segments inExpression goesOn k l path

instance advances_path_from [∀ k l, Alike ⟨k, a.count⟩ ⟨l, b.count⟩ p q] [Forward p]
    (inExpression : Bool) (goesOn : Ahead) [Steady goesOn] :
    Advances a b (pathFrom p inExpression goesOn) (pathFrom q inExpression goesOn) := by
  have : Alike a b p q := inferInstanceAs (Alike ⟨a.length, a.count⟩ ⟨b.length, b.count⟩ p q)
  unfold pathFrom
  infer_instance

instance advances_path_from_count [∀ k l, Alike ⟨k, n⟩ ⟨l, m⟩ p q] [Forward p]
    (inExpression : Bool) (goesOn : Ahead) [Steady goesOn] :
    Advances ⟨k, n + 1⟩ ⟨l, m + 1⟩ (pathFrom p inExpression goesOn)
      (pathFrom q inExpression goesOn) := by
  unfold pathFrom
  infer_instance

instance steady_path_goes_on : Steady pathGoesOn := by
  unfold pathGoesOn
  infer_instance

instance advances_path_with [∀ k l, Alike ⟨k, a.count⟩ ⟨l, b.count⟩ p q] [Forward p]
    (inExpression : Bool) : Advances a b (pathWith p inExpression) (pathWith q inExpression) := by
  unfold pathWith
  infer_instance

instance advances_path_with_count [∀ k l, Alike ⟨k, n⟩ ⟨l, m⟩ p q] [Forward p]
    (inExpression : Bool) :
    Advances ⟨k, n + 1⟩ ⟨l, m + 1⟩ (pathWith p inExpression) (pathWith q inExpression) := by
  unfold pathWith
  infer_instance

instance alike_lifetime_parameter : Alike a b (lifetimeParameter g) (lifetimeParameter g) := by
  unfold lifetimeParameter
  dsimp only
  infer_instance

instance advances_trait_bound [LocalTypes g] [∀ k l, Alike ⟨k, a.count⟩ ⟨l, b.count⟩ p q]
    [Forward p] : Advances a b (traitBound g p) (traitBound g q) := by
  unfold traitBound
  infer_instance

instance advances_trait_bound_count [LocalTypes g] [∀ k l, Alike ⟨k, n⟩ ⟨l, m⟩ p q] [Forward p] :
    Advances ⟨k, n + 1⟩ ⟨l, m + 1⟩ (traitBound g p) (traitBound g q) := by
  unfold traitBound
  infer_instance

instance advances_capture : Advances a b capture capture := by
  unfold capture
  infer_instance

instance advances_bound_with [LocalTypes g] [∀ k l, Alike ⟨k, a.count⟩ ⟨l, b.count⟩ p q] [Forward p]
    (capturing : Bool) : Advances a b (boundWith g p capturing) (boundWith g q capturing) := by
  unfold boundWith
  infer_instance

instance advances_bound_with_count [LocalTypes g] [∀ k l, Alike ⟨k, n⟩ ⟨l, m⟩ p q] [Forward p]
    (capturing : Bool) :
    Advances ⟨k, n + 1⟩ ⟨l, m + 1⟩ (boundWith g p capturing) (boundWith g q capturing) := by
  unfold boundWith
  infer_instance

instance alike_generic_argument [LocalTypes g] [∀ k l, Alike ⟨k, a.count⟩ ⟨l, b.count⟩ p q]
    [Forward p] : AlikeWithin a b (genericArgument g p) (genericArgument g q) := by
  unfold genericArgument
  infer_instance

instance alike_angle_arguments {item item' : Parser (Bool × List Token)} [Forward item]
    [∀ k l, AlikeWithin ⟨k, a.count⟩ ⟨l, b.count⟩ item item'] :
    Alike a b (angleArguments item) (angleArguments item') := by
  unfold angleArguments
  infer_instance

instance alike_angle_arguments_count {item item' : Parser (Bool × List Token)} [Forward item]
    [∀ k l, AlikeWithin ⟨k, n⟩ ⟨l, m⟩ item item'] :
    Alike ⟨k, n + 1⟩ ⟨l, m + 1⟩ (angleArguments item) (angleArguments item') := by
  unfold angleArguments
  infer_instance

/-! ## Paths -/

/-- At one depth on both sides the rules of bounds and arguments read alike within any limits. -/
theorem alike_rules_same [LocalTypes g] (depth : Nat) :
    (∀ a b, Alike a b (pathRules g depth).arguments (pathRules g depth).arguments) ∧
      ∀ a b capturing,
        Alike a b ((pathRules g depth).bound capturing) ((pathRules g depth).bound capturing) := by
  induction depth with
  | zero => exact ⟨fun _ _ ↦ alike_failure, fun _ _ _ ↦ alike_failure⟩
  | succ depth ih =>
      obtain ⟨harguments, hbound⟩ := ih
      constructor
      · intro a b
        unfold pathRules
        dsimp only
        infer_instance
      · intro a b capturing
        unfold pathRules
        dsimp only
        infer_instance

/-- The rules of bounds and arguments read alike from tokens for which they are nested enough. -/
theorem alike_rules [LocalTypes g] (n m k l : Nat) :
    Alike ⟨k, n⟩ ⟨l, m⟩ (pathRules g n).arguments (pathRules g m).arguments ∧
      ∀ capturing,
        Alike ⟨k, n⟩ ⟨l, m⟩ ((pathRules g n).bound capturing)
          ((pathRules g m).bound capturing) := by
  induction n generalizing m k l with
  | zero => exact ⟨alike_failure, fun _ ↦ alike_failure⟩
  | succ n ih =>
      cases m with
      | zero =>
          obtain ⟨harguments, hbound⟩ := alike_rules_same (g := g) (n + 1)
          exact ⟨.of_right_count_zero, fun _ ↦ .of_right_count_zero⟩
      | succ m =>
          -- The rules one level below are instances, at their own depth and at both depths.
          obtain ⟨hsame, hsame'⟩ := alike_rules_same (g := g) n
          have harguments k l := (ih m k l).1
          have hbound k l := (ih m k l).2
          constructor
          · unfold pathRules
            dsimp only
            infer_instance
          · intro capturing
            unfold pathRules
            dsimp only
            infer_instance

instance alike_generic_arguments [LocalTypes g] :
    Alike a b (genericArguments g) (genericArguments g) :=
  .of_levels fun n m k l ↦ (alike_rules n m k l).1

instance advances_bound [LocalTypes g] (capturing : Bool) :
    Advances a b (bound g capturing) (bound g capturing) := by
  unfold bound
  infer_instance

instance advances_path [LocalTypes g] (inExpression : Bool) :
    Advances a b (path g inExpression) (path g inExpression) := by
  unfold path
  infer_instance

instance advances_qualified_path [LocalTypes g] (inExpression : Bool) :
    Advances a b (qualifiedPath g inExpression) (qualifiedPath g inExpression) := by
  unfold qualifiedPath
  infer_instance

/-! ## Sums of bounds -/

instance steady_is_bound_start : Steady isBoundStart := by
  unfold isBoundStart
  infer_instance

instance steady_is_trait_bound (capturing : Bool) : Steady (isTraitBound capturing) := by
  unfold isTraitBound
  infer_instance

/-- The loop over further bounds goes forward. -/
theorem forward_further_bounds [LocalTypes g] (capturing : Bool) :
    ∀ k, Forward (furtherBounds g capturing k)
  | 0 => by unfold furtherBounds; infer_instance
  | k + 1 => by
      have := forward_further_bounds capturing k
      unfold furtherBounds
      infer_instance

/-- The loop over further bounds reads alike with any numbers of steps that are enough. -/
theorem alike_further_bounds [LocalTypes g] (capturing : Bool) :
    ∀ k l, Alike ⟨k, n⟩ ⟨l, m⟩ (furtherBounds g capturing k) (furtherBounds g capturing l) := by
  refine .of_step (forward_further_bounds capturing) fun k l ih ↦ ?_
  unfold furtherBounds
  infer_instance

instance alike_bounds_behind [LocalTypes g] (capturing allowPlus : Bool) :
    Alike a b (boundsBehind g capturing allowPlus) (boundsBehind g capturing allowPlus) := by
  have : Alike a b (fun tokens ↦ furtherBounds g capturing (tokens.length + 1) tokens)
      (fun tokens ↦ furtherBounds g capturing (tokens.length + 1) tokens) :=
    .of_steps fun k l ↦ alike_further_bounds capturing k l
  unfold boundsBehind
  infer_instance

instance advances_trait_bounds [LocalTypes g] (capturing allowPlus : Bool) :
    Advances a b (traitBounds g capturing allowPlus) (traitBounds g capturing allowPlus) := by
  unfold traitBounds
  infer_instance

instance alike_bounds_behind_group [LocalTypes g] :
    Alike a b (boundsBehindGroup g) (boundsBehindGroup g) := by
  unfold boundsBehindGroup
  infer_instance

/-! ## Types -/

instance steady_is_doubtful_group : Steady isDoubtfulGroup :=
  .of_head (fun token _ _ ↦ by unfold isDoubtfulGroup; split <;> split <;> simp_all)
    ⟨fun h ↦ by cases h <;> rfl⟩

instance alike_parenthesized_type [LocalTypes g] (allowPlus : Bool) :
    Alike a b (parenthesizedType g allowPlus) (parenthesizedType g allowPlus) := by
  unfold parenthesizedType
  infer_instance

instance alike_calling_convention : Alike a b callingConvention? callingConvention? := by
  unfold callingConvention?
  infer_instance

instance alike_function_type [LocalTypes g] : Alike a b (functionType g) (functionType g) := by
  unfold functionType
  infer_instance

instance steady_is_macro_mark : Steady isMacroMark := by
  unfold isMacroMark
  infer_instance

instance alike_macro_arguments : Alike a b macroArguments macroArguments := by
  unfold macroArguments
  infer_instance

instance steady_is_path_word : Steady isPathWord := by
  unfold isPathWord
  infer_instance

instance steady_is_path_start : Steady isPathStart := by
  unfold isPathStart
  infer_instance

instance alike_path_type [LocalTypes g] (allowPlus : Bool) (lifetimes : List Token) :
    Alike a b (pathType g allowPlus lifetimes) (pathType g allowPlus lifetimes) := by
  unfold pathType
  dsimp only
  infer_instance

instance alike_array_type : Alike a b (arrayType g) (arrayType g) := by
  unfold arrayType
  infer_instance

instance alike_pointer_type [LocalTypes g] : Alike a b (pointerType g) (pointerType g) := by
  unfold pointerType
  infer_instance

instance alike_reference_type [LocalTypes g] : Alike a b (referenceType g) (referenceType g) := by
  unfold referenceType
  infer_instance

instance alike_object_type [LocalTypes g] (allowPlus : Bool) :
    Alike a b (objectType g allowPlus) (objectType g allowPlus) := by
  unfold objectType
  infer_instance

instance alike_hidden_type [LocalTypes g] (allowPlus : Bool) :
    Alike a b (hiddenType g allowPlus) (hiddenType g allowPlus) := by
  unfold hiddenType
  infer_instance

/-- A test behind another one has to be steady only where the other one holds. -/
instance alike_ahead_under {guard look : Ahead} {f f' : Bool → Parser α} {r r' : Parser α}
    [hguard : Steady guard] [hboth : Steady fun tokens ↦ guard tokens && look tokens]
    [hf : ∀ seen, Alike a b (f seen) (f' seen)] [hr : Alike a b r r'] :
    Alike a b (do if ← ahead guard then ahead look >>= f else r)
      (do if ← ahead guard then ahead look >>= f' else r') where
  read := by
    intro tokens left value hfits h
    obtain ⟨seen, middle, hseen, hrest⟩ := bind_eq_some_iff.mp h
    cases hseen
    cases hguarded : guard tokens with
    | false =>
        rw [hguarded, if_neg Bool.false_ne_true] at hrest
        obtain ⟨front, rfl, htail⟩ := hr.read hfits hrest
        refine ⟨front, rfl, fun {tail} hsame hfits' ↦ ?_⟩
        refine bind_eq_some_iff.mpr ⟨false, _, ?_, by simpa using htail hsame hfits'⟩
        rw [ahead, ← hguard.same (hsame.append front), hguarded]
    | true =>
        rw [hguarded, if_pos rfl] at hrest
        obtain ⟨inner, middle, hinner, hrest⟩ := bind_eq_some_iff.mp hrest
        cases hinner
        obtain ⟨front, rfl, htail⟩ := (hf _).read hfits hrest
        refine ⟨front, rfl, fun {tail} hsame hfits' ↦ ?_⟩
        have hsame' := hsame.append front
        have hsecond := hguard.same hsame'
        have hlook := hboth.same hsame'
        simp only [hguarded, ← hsecond, Bool.true_and] at hlook
        refine bind_eq_some_iff.mpr ⟨true, _, by rw [ahead, ← hsecond, hguarded], ?_⟩
        rw [if_pos rfl]
        refine bind_eq_some_iff.mpr ⟨_, _, rfl, ?_⟩
        rw [← hlook]
        exact htail hsame hfits'

instance alike_type_rule [LocalTypes g] (allowPlus : Bool) :
    Alike a b (typeRule g allowPlus) (typeRule g allowPlus) := by
  unfold typeRule
  dsimp only
  infer_instance

/-- What the rules put into one another read as types does not depend on what stands behind a
break. -/
instance local_types (depth : Nat) : LocalTypes (Grammar.level depth) := by
  induction depth with
  | zero => exact ⟨fun _ _ _ ↦ alike_failure⟩
  | succ depth ih => exact ⟨fun _ _ sums ↦ alike_type_rule sums⟩

instance local_types_enough_for (tokens : List Token) : LocalTypes (Grammar.enoughFor tokens) :=
  local_types _

end rules

end EndpointGuard.Source
