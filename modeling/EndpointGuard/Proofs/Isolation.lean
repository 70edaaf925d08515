import EndpointGuard.Proofs.RegistryRun

/-!
# What a registration does to other endpoints

The policies of types stand in one table for all endpoints, and a registration writes those of its
whole chain there. `Represents.resolve_add` and `Represents.endpoint_add` say what that does to the
answers about other names. `registration_isolated_iff` draws the consequence: these answers stay
exactly when the new chain gives no type in use another policy, and the decisions stay exactly when
the two policies are judged alike.
-/

namespace EndpointGuard

/-- The answer with the policy that the chain of a definition gives to the declaring type. -/
def ResolvedMethod.overridden (resolved : ResolvedMethod) (definition : TypeDefinition) :
    ResolvedMethod :=
  { resolved with target := { resolved.target with
      declaringType :=
        (definition.policyOf? resolved.declaringType).getD resolved.target.declaringType } }

/-- The answer with the policy that the chain of a definition gives to the registered type. -/
def ResolvedEndpoint.overridden (found : ResolvedEndpoint) (definition : TypeDefinition) :
    ResolvedEndpoint :=
  { found with typePolicy := (definition.policyOf? found.typeName).getD found.typePolicy }

/-- No caller is judged differently by the one policy of a type and by the other. -/
def JudgedAlike (policy other : Policy) : Prop :=
  ∀ (checker : Checker) (user : Option User),
    (checker.decideTypeFor policy user).1 = (checker.decideTypeFor other user).1

/-- A replacement, if there is one, has to be related to what it replaces. -/
theorem get_or_self_related_iff {α : Type} {related : α → α → Prop} (hrefl : ∀ a, related a a)
    (replacement : Option α) (a : α) :
    related (replacement.getD a) a ↔ ∀ b, replacement = some b → related b a := by
  cases replacement with
  | none => simp [hrefl]
  | some b => simp

/-- The answer about a call stays exactly when the policy of the type is replaced by itself. -/
theorem ResolvedMethod.overridden_eq_self_iff (resolved : ResolvedMethod)
    (definition : TypeDefinition) :
    resolved.overridden definition = resolved ↔
      ∀ policy, definition.policyOf? resolved.declaringType = some policy →
        policy = resolved.target.declaringType := by
  rw [← get_or_self_related_iff fun _ ↦ rfl]
  obtain ⟨endpoint, method, declaringType, target⟩ := resolved
  obtain ⟨methodPolicy, typePolicy⟩ := target
  simp [overridden]

/-- The answer about an endpoint stays exactly when its policy is replaced by itself. -/
theorem ResolvedEndpoint.overridden_eq_self_iff (found : ResolvedEndpoint)
    (definition : TypeDefinition) :
    found.overridden definition = found ↔
      ∀ policy, definition.policyOf? found.typeName = some policy → policy = found.typePolicy := by
  rw [← get_or_self_related_iff fun _ ↦ rfl]
  obtain ⟨name, typeName, typePolicy, methodNames⟩ := found
  simp [overridden]

/-- The markers of a method decide alone, whatever the policy of the declaring type is. -/
theorem Checker.decide_for_specified (checker : Checker) (user : Option User) {method : Policy}
    (h : method.isSpecified = true) (typePolicy other : Policy) :
    (checker.decideFor ⟨method, typePolicy⟩ user).1 = (checker.decideFor ⟨method, other⟩ user).1 := by
  simp [decideFor, decide, judgeTarget, h]

/-- A method without markers is decided about like its declaring type. -/
theorem Checker.decide_for_unspecified (checker : Checker) (user : Option User) {method : Policy}
    (h : method.isSpecified = false) (typePolicy : Policy) :
    (checker.decideFor ⟨method, typePolicy⟩ user).1 =
      (checker.decideTypeFor typePolicy user).1 := by
  simp [decideFor, decideTypeFor, decide, decideType, judgeTarget, h]

/-- The decisions about a method stay when it has markers of its own, and otherwise when the policy
of its type is replaced by one that is judged alike. -/
theorem ResolvedMethod.overridden_decided_alike_iff (resolved : ResolvedMethod)
    (definition : TypeDefinition) :
    (∀ (checker : Checker) (user : Option User),
      (checker.decideFor (resolved.overridden definition).target user).1 =
        (checker.decideFor resolved.target user).1) ↔
      (resolved.target.method.isSpecified = false →
        ∀ policy, definition.policyOf? resolved.declaringType = some policy →
          JudgedAlike policy resolved.target.declaringType) := by
  rw [← get_or_self_related_iff fun _ _ _ ↦ rfl]
  obtain ⟨endpoint, method, declaringType, target⟩ := resolved
  obtain ⟨methodPolicy, typePolicy⟩ := target
  cases hspecified : methodPolicy.isSpecified with
  | false => simp [overridden, JudgedAlike, Checker.decide_for_unspecified _ _ hspecified]
  | true =>
      simp only [reduceCtorEq, false_implies, iff_true]
      intro checker user
      exact checker.decide_for_specified user hspecified _ _

namespace Registry

/-- The decision about a call, if it resolves to a method. -/
def decideCall (registry : Registry) (checker : Checker) (endpoint method : String)
    (user : Option User) : Option Decision :=
  (registry.resolve endpoint method).map fun resolved ↦
    (checker.decideFor resolved.target user).1

/-- The decision about an endpoint as a whole, if there is one of the name. -/
def decideEndpoint (registry : Registry) (checker : Checker) (name : String)
    (user : Option User) : Option Decision :=
  (registry.endpoint name).map fun found ↦ (checker.decideTypeFor found.typePolicy user).1

/-- Entering the definition changes no answer about another name. -/
def KeepsAnswers (registry : Registry) (definition : TypeDefinition) : Prop :=
  ∀ name, ¬ definition.IsNamed name →
    (∀ method, (registry.enter definition).2.resolve name method = registry.resolve name method) ∧
    (registry.enter definition).2.endpoint name = registry.endpoint name

/-- Entering the definition changes no decision about another name, whoever calls. -/
def KeepsDecisions (registry : Registry) (definition : TypeDefinition) : Prop :=
  ∀ name, ¬ definition.IsNamed name → ∀ checker user,
    (∀ method, (registry.enter definition).2.decideCall checker name method user =
      registry.decideCall checker name method user) ∧
    (registry.enter definition).2.decideEndpoint checker name user =
      registry.decideEndpoint checker name user

/-- Where the chain of the definition names a type in use, the policy that it gives to the type is
related to the one that the type has. A type is in use when it is registered, and when it declares
one of `methods`. -/
structure Redeclares (registry : Registry) (definition : TypeDefinition)
    (methods : ResolvedMethod → Prop) (related : Policy → Policy → Prop) : Prop where
  declaring : ∀ name method resolved, registry.resolve name method = some resolved →
    methods resolved → ∀ policy, definition.policyOf? resolved.declaringType = some policy →
      related policy resolved.target.declaringType
  registered : ∀ name found, registry.endpoint name = some found →
    ∀ policy, definition.policyOf? found.typeName = some policy → related policy found.typePolicy

variable {registry : Registry} {definition : TypeDefinition} {held : List TypeDefinition}
  {name : String}

/-! ## The answers after a registration -/

/-- The policies of the chain replace those known before. -/
theorem add_types_get (typeName : String) :
    (registry.add definition).types.get? typeName =
      (definition.policyOf? typeName).or (registry.types.get? typeName) := by
  rw [add, KeyedList.get_insert_all, TypeDefinition.type_policies_find]

/-- The policy of every registered type is known. -/
theorem Represents.registered_known (h : Represents registry held) {entry : Endpoint}
    (hentry : registry.find? name = some entry) :
    ∃ policy, registry.types.get? entry.typeName = some policy := by
  obtain ⟨holder, hmem, _, rfl⟩ := (h.endpoints _ _).mp hentry
  have hrecord := List.mem_flatMap.mpr ⟨holder, hmem, holder.own_mem_chain⟩
  exact Option.isSome_iff_exists.mp (h.type_policy_is_some hrecord)

/-- The policy of every type that declares a method which a call can reach is known. -/
theorem Represents.declaring_known (h : Represents registry held) {entry : Endpoint}
    (hentry : registry.find? name = some entry) {method : String} {offered : OfferedMethod}
    (hoffered : entry.methods.get? (Text.lowerCase method) = some offered) :
    ∃ policy, registry.types.get? offered.declaringType = some policy := by
  obtain ⟨holder, hmem, _, rfl⟩ := (h.endpoints _ _).mp hentry
  obtain ⟨record, found, hoffers, rfl⟩ := TypeDefinition.offered_eq_some_iff.mp hoffered
  have hrecord := List.mem_flatMap.mpr ⟨holder, hmem, hoffers.mem_chain⟩
  exact Option.isSome_iff_exists.mp (h.type_policy_is_some hrecord)

/-- A registration replaces the type policies in what calls of other endpoints resolve to, and
nothing else. -/
theorem Represents.resolve_add (h : Represents registry held) (hother : ¬ definition.IsNamed name)
    (method : String) :
    (registry.add definition).resolve name method =
      (registry.resolve name method).map (·.overridden definition) := by
  simp only [resolve, find_add, if_neg hother, add_types_get, Option.bind_eq_bind]
  cases hentry : registry.find? name with
  | none => rfl
  | some entry =>
      cases hoffered : entry.methods.get? (Text.lowerCase method) with
      | none => simp [hoffered]
      | some offered =>
          -- A policy was known before, so the new chain can replace it but not supply a missing one.
          obtain ⟨policy, hpolicy⟩ := h.declaring_known hentry hoffered
          simp [hoffered, hpolicy, ResolvedMethod.overridden, Option.or_some]

/-- A registration replaces the type policy in the answer about another endpoint, and nothing
else. -/
theorem Represents.endpoint_add (h : Represents registry held)
    (hother : ¬ definition.IsNamed name) :
    (registry.add definition).endpoint name =
      (registry.endpoint name).map (·.overridden definition) := by
  simp only [endpoint, find_add, if_neg hother, add_types_get, Option.bind_eq_bind]
  cases hentry : registry.find? name with
  | none => rfl
  | some entry =>
      obtain ⟨policy, hpolicy⟩ := h.registered_known hentry
      simp [hpolicy, ResolvedEndpoint.overridden, Option.or_some]

/-- What is seen of the calls of other endpoints stays exactly when the replaced policies cannot be
seen. -/
theorem Represents.resolve_kept_iff (h : Represents registry held)
    (haccepts : registry.Accepts definition) {β : Type} (view : ResolvedMethod → β) :
    (∀ name, ¬ definition.IsNamed name → ∀ method,
      ((registry.add definition).resolve name method).map view =
        (registry.resolve name method).map view) ↔
      ∀ name method resolved, registry.resolve name method = some resolved →
        view (resolved.overridden definition) = view resolved := by
  constructor
  · intro hkept name method resolved hresolved
    have hother : ¬ definition.IsNamed name := by
      intro hnamed
      simp [resolve, haccepts.find_eq_none hnamed] at hresolved
    simpa [h.resolve_add hother, hresolved] using hkept name hother method
  · intro hsame name hother method
    rw [h.resolve_add hother]
    cases hresolved : registry.resolve name method with
    | none => rfl
    | some resolved => simp [hsame name method resolved hresolved]

/-- What is seen of other endpoints stays exactly when the replaced policies cannot be seen. -/
theorem Represents.endpoint_kept_iff (h : Represents registry held)
    (haccepts : registry.Accepts definition) {β : Type} (view : ResolvedEndpoint → β) :
    (∀ name, ¬ definition.IsNamed name →
      ((registry.add definition).endpoint name).map view = (registry.endpoint name).map view) ↔
      ∀ name found, registry.endpoint name = some found →
        view (found.overridden definition) = view found := by
  constructor
  · intro hkept name found hfound
    have hother : ¬ definition.IsNamed name := by
      intro hnamed
      simp [endpoint, haccepts.find_eq_none hnamed] at hfound
    simpa [h.endpoint_add hother, hfound] using hkept name hother
  · intro hsame name hother
    rw [h.endpoint_add hother]
    cases hfound : registry.endpoint name with
    | none => rfl
    | some found => simp [hsame name found hfound]

/-! ## What stays -/

/-- The answers stay exactly when no type in use gets another policy. -/
theorem Represents.keeps_answers_iff (h : Represents registry held)
    (haccepts : registry.Accepts definition) :
    registry.KeepsAnswers definition ↔ registry.Redeclares definition (fun _ ↦ True) Eq := by
  have hresolve := h.resolve_kept_iff haccepts id
  have hendpoint := h.endpoint_kept_iff haccepts id
  simp only [Option.map_id, id, ResolvedMethod.overridden_eq_self_iff] at hresolve
  simp only [Option.map_id, id, ResolvedEndpoint.overridden_eq_self_iff] at hendpoint
  -- Both sides speak of the same answers; what is left is to collect them.
  unfold KeepsAnswers
  rw [enter_of_accepts haccepts]
  constructor
  · intro hkeeps
    refine ⟨?_, hendpoint.mp fun name hother ↦ (hkeeps name hother).2⟩
    intro name method resolved hresolved _
    exact hresolve.mp (fun name hother ↦ (hkeeps name hother).1) name method resolved hresolved
  · intro hredeclares name hother
    refine ⟨hresolve.mpr ?_ name hother, hendpoint.mpr hredeclares.registered name hother⟩
    intro name method resolved hresolved
    exact hredeclares.declaring name method resolved hresolved trivial

/-- The decisions stay exactly when every type in use, not counting those whose methods all have
markers of their own, keeps its policy or gets one that is judged alike. -/
theorem Represents.keeps_decisions_iff (h : Represents registry held)
    (haccepts : registry.Accepts definition) :
    registry.KeepsDecisions definition ↔
      registry.Redeclares definition (fun resolved ↦ resolved.target.method.isSpecified = false)
        JudgedAlike := by
  have hresolve := fun (checker : Checker) (user : Option User) ↦
    h.resolve_kept_iff haccepts fun resolved ↦ (checker.decideFor resolved.target user).1
  have hendpoint := fun (checker : Checker) (user : Option User) ↦
    h.endpoint_kept_iff haccepts fun found ↦ (checker.decideTypeFor found.typePolicy user).1
  unfold KeepsDecisions decideCall decideEndpoint
  rw [enter_of_accepts haccepts]
  constructor
  · intro hkeeps
    refine ⟨?_, ?_⟩
    · intro name method resolved hresolved
      rw [← ResolvedMethod.overridden_decided_alike_iff]
      intro checker user
      exact (hresolve checker user).mp (fun name hother ↦ (hkeeps name hother checker user).1)
        name method resolved hresolved
    · intro name found hfound
      rw [← get_or_self_related_iff fun _ _ _ ↦ rfl]
      intro checker user
      exact (hendpoint checker user).mp (fun name hother ↦ (hkeeps name hother checker user).2)
        name found hfound
  · intro hredeclares name hother checker user
    refine ⟨(hresolve checker user).mpr ?_ name hother, (hendpoint checker user).mpr ?_ name hother⟩
    · intro name method resolved hresolved
      exact (resolved.overridden_decided_alike_iff definition).mpr
        (hredeclares.declaring name method resolved hresolved) checker user
    · intro name found hfound
      exact (get_or_self_related_iff (fun _ _ _ ↦ rfl) _ _).mpr
        (hredeclares.registered name found hfound) checker user

/-- What a successful registration does to other endpoints, after any run. In the answers about them
it replaces the policies of the types that its chain names, and nothing else. The answers stay
exactly when these policies are the ones that the types in use already had, and the decisions stay
exactly when they are judged alike wherever a type decides. -/
theorem registration_isolated_iff (earlier : List TypeDefinition) (definition : TypeDefinition)
    (haccepted : ∃ records, ((empty.enterAll earlier).enter definition).1 = .ok records) :
    (∀ name, ¬ definition.IsNamed name →
      (∀ method, ((empty.enterAll earlier).enter definition).2.resolve name method =
        ((empty.enterAll earlier).resolve name method).map (·.overridden definition)) ∧
      ((empty.enterAll earlier).enter definition).2.endpoint name =
        ((empty.enterAll earlier).endpoint name).map (·.overridden definition)) ∧
    ((empty.enterAll earlier).KeepsAnswers definition ↔
      (empty.enterAll earlier).Redeclares definition (fun _ ↦ True) Eq) ∧
    ((empty.enterAll earlier).KeepsDecisions definition ↔
      (empty.enterAll earlier).Redeclares definition
        (fun resolved ↦ resolved.target.method.isSpecified = false) JudgedAlike) := by
  have hrun := represents_run earlier
  have haccepts := enter_ok_iff.mp haccepted
  refine ⟨?_, hrun.keeps_answers_iff haccepts, hrun.keeps_decisions_iff haccepts⟩
  intro name hother
  rw [enter_of_accepts haccepts]
  exact ⟨hrun.resolve_add hother, hrun.endpoint_add hother⟩

/-- An endpoint without markers that extends a type with the given ones. -/
def extendingBase (simpleName : String) (markers : List Marker) : TypeDefinition where
  own := {
    typeName := "app::" ++ simpleName
    simpleName := simpleName
    isEndpoint := true }
  ancestors := [{
    typeName := "lib::Base"
    simpleName := "Base"
    policy := .ofMarkers markers
    methods := [⟨"purge", .unspecified⟩] }]

/-- An endpoint whose parent has the markers that the parent of an earlier one has changes nothing
about the earlier one. -/
theorem registration_isolated_same_base :
    (∃ records, ((empty.enterAll [extendingBase "A" [.denyAll]]).enter
      (extendingBase "B" [.denyAll])).1 = .ok records) ∧
    ((empty.enterAll [extendingBase "A" [.denyAll]]).enter
      (extendingBase "B" [.denyAll])).2.resolve "A" "purge" =
      (empty.enterAll [extendingBase "A" [.denyAll]]).resolve "A" "purge" := by
  have haccepted : ∃ records, ((empty.enterAll [extendingBase "A" [.denyAll]]).enter
      (extendingBase "B" [.denyAll])).1 = .ok records := ⟨_, rfl⟩
  have heffect := registration_isolated_iff [extendingBase "A" [.denyAll]]
    (extendingBase "B" [.denyAll]) haccepted
  refine ⟨haccepted, ((heffect.1 "A" (by decide +kernel)).1 "purge").trans ?_⟩
  decide +kernel

/-- A later endpoint whose parent has the same type name but lets anyone in opens a method that was
denied to everyone. -/
theorem registration_opens_earlier :
    (∃ records, ((empty.enterAll [extendingBase "A" [.denyAll]]).enter
      (extendingBase "B" [.anonymousAllowed])).1 = .ok records) ∧
    (empty.enterAll [extendingBase "A" [.denyAll]]).decideCall (.standard false) "A" "purge" none =
      some (.denied "Access denied") ∧
    ((empty.enterAll [extendingBase "A" [.denyAll]]).enter
      (extendingBase "B" [.anonymousAllowed])).2.decideCall (.standard false) "A" "purge" none =
      some .allowed ∧
    ¬ (empty.enterAll [extendingBase "A" [.denyAll]]).KeepsAnswers
      (extendingBase "B" [.anonymousAllowed]) := by
  have hbefore : (empty.enterAll [extendingBase "A" [.denyAll]]).decideCall (.standard false)
      "A" "purge" none = some (.denied "Access denied") := by decide +kernel
  have hafter : ((empty.enterAll [extendingBase "A" [.denyAll]]).enter
      (extendingBase "B" [.anonymousAllowed])).2.decideCall (.standard false)
      "A" "purge" none = some .allowed := by decide +kernel
  refine ⟨⟨_, rfl⟩, hbefore, hafter, ?_⟩
  intro hkeeps
  have hsame := (hkeeps "A" (by decide +kernel)).1 "purge"
  rw [decideCall, hsame, ← decideCall, hbefore] at hafter
  cases hafter

end Registry

end EndpointGuard
