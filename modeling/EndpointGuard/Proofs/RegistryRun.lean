import EndpointGuard.Proofs.Chain
import EndpointGuard.Showcase.Endpoints

/-!
# Runs of registrations

What a registry answers after any definitions have been offered to it in any order. `Represents`
relates a registry to the definitions it has accepted; it holds of the empty registry, an accepted
definition preserves it (`Represents.add`), and so it holds after every run (`represents_run`). Read
`run_spec` first: it describes the outcome of every registration of a run and every answer of
`Registry.resolve` after the run by the definitions alone.
-/

namespace EndpointGuard

/-- Calls of the name go to this definition; case does not matter. -/
def TypeDefinition.IsNamed (definition : TypeDefinition) (name : String) : Prop :=
  Text.lowerCase definition.own.endpointName = Text.lowerCase name

instance (definition : TypeDefinition) (name : String) : Decidable (definition.IsNamed name) :=
  inferInstanceAs (Decidable (_ = _))

/-- Types of one name have one policy, over the chains of all definitions. -/
def PoliciesAgree (definitions : List TypeDefinition) : Prop :=
  ∀ first ∈ definitions.flatMap TypeDefinition.chain,
    ∀ second ∈ definitions.flatMap TypeDefinition.chain,
      first.typeName = second.typeName → first.policy = second.policy

/-- What a call of a method of the definition resolves to, when `typePolicy` is the policy of the
type that declares it. -/
def TypeDefinition.resolution (definition : TypeDefinition) (record : TypeRecord)
    (method : MethodDefinition) (typePolicy : Policy) : ResolvedMethod where
  endpoint := definition.own.endpointName
  method := method.name
  declaringType := record.typeName
  target := ⟨method.policy, typePolicy⟩

namespace Registry

/-- No question tells the two registries apart. -/
structure SameAnswers (registry other : Registry) : Prop where
  resolve : ∀ endpoint method, registry.resolve endpoint method = other.resolve endpoint method
  endpoint : ∀ name, registry.endpoint name = other.endpoint name
  endpointNames : registry.endpointNames = other.endpointNames
  size : registry.size = other.size

/-- The definition is one to register: an endpoint whose name is free. -/
def Accepts (registry : Registry) (definition : TypeDefinition) : Prop :=
  definition.own.isEndpoint = true ∧ registry.find? definition.own.endpointName = none

/-- The registry holds what these definitions say, and nothing else. -/
structure Represents (registry : Registry) (held : List TypeDefinition) : Prop where
  endpoints : ∀ name entry, registry.find? name = some entry ↔
    ∃ definition ∈ held, definition.IsNamed name ∧ entry = definition.toEndpoint
  types : registry.types = .ofList (held.flatMap TypeDefinition.typePolicies)

variable {registry : Registry} {definition : TypeDefinition} {held : List TypeDefinition}
  {name : String}

/-! ## One registration -/

/-- An acceptable definition is added. -/
theorem enter_of_accepts (h : registry.Accepts definition) :
    registry.enter definition = (.ok [registrationRecord definition], registry.add definition) := by
  simp only [enter, h.1, h.2, if_true]

/-- Any other definition leaves the registry as it is. -/
theorem enter_of_not_accepts (h : ¬ registry.Accepts definition) :
    ∃ failure, registry.enter definition = (.error failure, registry) := by
  unfold enter
  split
  · rename_i hendpoint
    cases hfind : registry.find? definition.own.endpointName with
    | none => exact absurd ⟨hendpoint, hfind⟩ h
    | some existing => exact ⟨_, rfl⟩
  · exact ⟨_, rfl⟩

/-- Exactly the acceptable definitions are registered. -/
theorem enter_ok_iff :
    (∃ records, (registry.enter definition).1 = .ok records) ↔ registry.Accepts definition := by
  constructor
  · rintro ⟨records, hok⟩
    refine Classical.byContradiction fun h ↦ ?_
    obtain ⟨failure, henter⟩ := enter_of_not_accepts h
    rw [henter] at hok
    cases hok
  · intro h
    exact ⟨_, by rw [enter_of_accepts h]⟩

/-- A registration that fails leaves the registry as it is. -/
theorem enter_of_error {failure : RegistryError}
    (h : (registry.enter definition).1 = .error failure) :
    registry.enter definition = (.error failure, registry) := by
  have hrejected : ¬ registry.Accepts definition := by
    intro haccepts
    rw [enter_of_accepts haccepts] at h
    cases h
  obtain ⟨other, henter⟩ := enter_of_not_accepts hrejected
  rw [henter] at h
  rw [henter, ← h]

/-- A registration fails for what is not an endpoint, whatever its name. -/
theorem enter_not_endpoint_iff (typeName : String) :
    (registry.enter definition).1 = .error (.notAnEndpoint typeName) ↔
      definition.own.isEndpoint = false ∧ typeName = definition.own.typeName := by
  unfold enter
  cases definition.own.isEndpoint with
  | false => simp [eq_comm]
  | true => cases registry.find? definition.own.endpointName <;> simp

/-- The registration of an endpoint fails for a name that is taken. -/
theorem enter_duplicate_iff (name existing : String) :
    (registry.enter definition).1 = .error (.duplicateEndpoint name existing) ↔
      definition.own.isEndpoint = true ∧ name = definition.own.endpointName ∧
        ∃ entry, registry.find? name = some entry ∧ existing = entry.typeName := by
  unfold enter
  cases definition.own.isEndpoint with
  | false => simp
  | true =>
      cases hfind : registry.find? definition.own.endpointName with
      | none =>
          simp only [if_true, reduceCtorEq, true_and, false_iff, not_and, not_exists]
          rintro rfl entry hentry
          simp [hfind] at hentry
      | some holder =>
          simp only [if_true, Except.error.injEq, RegistryError.duplicateEndpoint.injEq, true_and]
          constructor
          · rintro ⟨rfl, rfl⟩
            exact ⟨rfl, holder, hfind, rfl⟩
          · rintro ⟨rfl, entry, hentry, rfl⟩
            rw [hfind] at hentry
            cases hentry
            exact ⟨rfl, rfl⟩

/-! ## What is preserved -/

/-- The empty registry has accepted nothing. -/
theorem represents_empty : Represents empty [] where
  endpoints name entry := by
    simp [find?, empty, KeyedList.get_empty]
  types := rfl

/-- Adding a definition answers for its name, and for no other. -/
theorem find_add (name : String) :
    (registry.add definition).find? name =
      if definition.IsNamed name then some definition.toEndpoint else registry.find? name :=
  KeyedList.get_insert _ _ _ _

/-- The name of an acceptable definition is free. -/
theorem Accepts.find_eq_none (haccepts : registry.Accepts definition)
    (hnamed : definition.IsNamed name) : registry.find? name = none := by
  rw [← haccepts.2, find?, find?, hnamed]

/-- An acceptable definition joins those that are represented. -/
theorem Represents.add (h : Represents registry held) (haccepts : registry.Accepts definition) :
    Represents (registry.add definition) (held ++ [definition]) where
  endpoints name entry := by
    simp only [find_add, List.mem_append, List.mem_singleton, or_and_right, exists_or,
      exists_eq_left, ← h.endpoints]
    by_cases hnamed : definition.IsNamed name
    · -- The name was free, so the registry held no entry that could stay.
      simp [hnamed, haccepts.find_eq_none hnamed, eq_comm]
    · simp [hnamed]
  types := by
    rw [List.flatMap_append, KeyedList.ofList, KeyedList.insert_all_append, ← KeyedList.ofList,
      ← h.types]
    simp [Registry.add]

/-- After a run, the registry represents what it had accepted before and what the run added. -/
theorem represents_enter_all (h : Represents registry held) (definitions : List TypeDefinition) :
    Represents (registry.enterAll definitions) (held ++ registry.accepted definitions) := by
  induction definitions generalizing registry held with
  | nil => simpa [enterAll, accepted] using h
  | cons definition rest ih =>
      by_cases haccepts : registry.Accepts definition
      · simpa [enterAll, accepted, enter_of_accepts haccepts] using ih (h.add haccepts)
      · -- What is rejected changes neither side.
        obtain ⟨failure, henter⟩ := enter_of_not_accepts haccepts
        simpa [enterAll, accepted, henter] using ih h

/-- Every run on the empty registry leaves one that represents the accepted definitions. -/
theorem represents_run (definitions : List TypeDefinition) :
    Represents (empty.enterAll definitions) (empty.accepted definitions) :=
  represents_enter_all represents_empty definitions

/-- Only offered definitions are accepted. -/
theorem accepted_subset (registry : Registry) (definitions : List TypeDefinition) :
    registry.accepted definitions ⊆ definitions := by
  induction definitions generalizing registry with
  | nil => exact List.Subset.refl _
  | cons definition rest ih =>
      unfold accepted
      split
      · exact List.cons_subset_cons _ (ih _)
      · exact List.subset_cons_of_subset _ (ih _)

/-- The policies that definitions enter are those of the types of their chains. -/
theorem mem_policies {typeName : String} {policy : Policy} :
    (typeName, policy) ∈ held.flatMap TypeDefinition.typePolicies ↔
      ∃ record ∈ held.flatMap TypeDefinition.chain,
        record.typeName = typeName ∧ record.policy = policy := by
  simp only [List.mem_flatMap, TypeDefinition.typePolicies, List.mem_map, List.mem_reverse,
    Prod.mk.injEq]
  constructor
  · rintro ⟨definition, hmem, record, hrecord, hpair⟩
    exact ⟨record, ⟨definition, hmem, hrecord⟩, hpair⟩
  · rintro ⟨record, ⟨definition, hmem, hrecord⟩, hpair⟩
    exact ⟨definition, hmem, record, hrecord, hpair⟩

/-- The policy known for a type name is found among those that the definitions enter. -/
theorem Represents.types_get (h : Represents registry held) (typeName : String) :
    registry.types.get? typeName =
      KeyedList.find? typeName (held.flatMap TypeDefinition.typePolicies).reverse := by
  rw [h.types, KeyedList.ofList, KeyedList.get_insert_all, KeyedList.get_empty, Option.or_none]

/-- Some policy is known for every type of the chains. -/
theorem Represents.type_policy_is_some (h : Represents registry held) {record : TypeRecord}
    (hrecord : record ∈ held.flatMap TypeDefinition.chain) :
    (registry.types.get? record.typeName).isSome := by
  rw [h.types_get, KeyedList.find_is_some_iff]
  exact ⟨record.policy, List.mem_reverse.mpr (mem_policies.mpr ⟨record, hrecord, rfl, rfl⟩)⟩

/-- Where the policies agree, the policy known for a type of the chains is its own. -/
theorem Represents.type_policy_eq (h : Represents registry held) (hpolicies : PoliciesAgree held)
    {record : TypeRecord} (hrecord : record ∈ held.flatMap TypeDefinition.chain) :
    registry.types.get? record.typeName = some record.policy := by
  rw [h.types_get]
  refine KeyedList.find_eq_some_of_mem ?_ ?_
  · -- More types of the name may have been entered, but all have the one policy.
    intro other hother
    obtain ⟨same, hsame, hname, rfl⟩ := mem_policies.mp (List.mem_reverse.mp hother)
    exact hpolicies same hsame record hrecord hname
  · exact List.mem_reverse.mpr (mem_policies.mpr ⟨record, hrecord, rfl, rfl⟩)

/-! ## What is answered -/

/-- What a call resolves to, with whatever policy is known for the declaring type. -/
theorem Represents.resolve_eq_some_iff (h : Represents registry held) (endpoint method : String)
    (resolved : ResolvedMethod) :
    registry.resolve endpoint method = some resolved ↔
      ∃ definition ∈ held, definition.IsNamed endpoint ∧
        ∃ record found, definition.Offers method record found ∧
          ∃ typePolicy, registry.types.get? record.typeName = some typePolicy ∧
            resolved = definition.resolution record found typePolicy := by
  unfold resolve
  simp only [Option.bind_eq_bind, Option.bind_eq_some_iff, Option.pure_def, Option.some.injEq,
    h.endpoints]
  constructor
  · rintro ⟨_, ⟨definition, hmem, hnamed, rfl⟩, offered, hoffered, typePolicy, hpolicy, rfl⟩
    obtain ⟨record, found, hoffers, rfl⟩ := TypeDefinition.offered_eq_some_iff.mp hoffered
    exact ⟨definition, hmem, hnamed, record, found, hoffers, typePolicy, hpolicy, rfl⟩
  · rintro ⟨definition, hmem, hnamed, record, found, hoffers, typePolicy, hpolicy, rfl⟩
    exact ⟨_, ⟨definition, hmem, hnamed, rfl⟩, record.offering found,
      TypeDefinition.offered_eq_some_iff.mpr ⟨record, found, hoffers, rfl⟩, typePolicy, hpolicy, rfl⟩

/-- A call resolves to something exactly if an accepted definition of that name has a type in its
chain that declares the method. -/
theorem Represents.resolve_is_some_iff (h : Represents registry held) (endpoint method : String) :
    (registry.resolve endpoint method).isSome ↔
      ∃ definition ∈ held, definition.IsNamed endpoint ∧
        ∃ record ∈ definition.chain, record.Declares method := by
  simp only [← TypeDefinition.offered_is_some_iff, Option.isSome_iff_exists,
    h.resolve_eq_some_iff, TypeDefinition.offered_eq_some_iff]
  constructor
  · rintro ⟨_, definition, hmem, hnamed, record, found, hoffers, _⟩
    exact ⟨definition, hmem, hnamed, _, record, found, hoffers, rfl⟩
  · rintro ⟨definition, hmem, hnamed, _, record, found, hoffers, _⟩
    have hrecord := List.mem_flatMap.mpr ⟨definition, hmem, hoffers.mem_chain⟩
    obtain ⟨typePolicy, hpolicy⟩ := Option.isSome_iff_exists.mp (h.type_policy_is_some hrecord)
    exact ⟨_, definition, hmem, hnamed, record, found, hoffers, typePolicy, hpolicy, rfl⟩

/-! ## Whole runs -/

/-- Agreement carries over to part of the definitions. -/
theorem policies_agree_subset {definitions : List TypeDefinition} (hsubset : held ⊆ definitions)
    (hpolicies : PoliciesAgree definitions) : PoliciesAgree held := by
  have hchains : held.flatMap TypeDefinition.chain ⊆ definitions.flatMap TypeDefinition.chain := by
    intro record hrecord
    obtain ⟨definition, hmem, hchain⟩ := List.mem_flatMap.mp hrecord
    exact List.mem_flatMap.mpr ⟨definition, hsubset hmem, hchain⟩
  intro first hfirst second hsecond
  exact hpolicies first (hchains hfirst) second (hchains hsecond)

/-- A name is free exactly if no accepted definition has it. -/
theorem Represents.find_eq_none_iff (h : Represents registry held) (name : String) :
    registry.find? name = none ↔ ∀ holder ∈ held, ¬ holder.IsNamed name := by
  rw [Option.eq_none_iff_forall_ne_some]
  simp only [ne_eq, h.endpoints, not_exists, not_and]
  constructor
  · intro hfree holder hmem hnamed
    exact hfree holder.toEndpoint holder hmem hnamed rfl
  · intro hfree _ holder hmem hnamed _
    exact hfree holder hmem hnamed

/-- The registration of an endpoint fails for a name that an accepted definition has. -/
theorem Represents.duplicate_iff (h : Represents registry held) (name existing : String) :
    (registry.enter definition).1 = .error (.duplicateEndpoint name existing) ↔
      definition.own.isEndpoint = true ∧ name = definition.own.endpointName ∧
        ∃ holder ∈ held, holder.IsNamed definition.own.endpointName ∧
          existing = holder.own.typeName := by
  rw [enter_duplicate_iff]
  refine and_congr_right fun _ ↦ and_congr_right fun hname ↦ ?_
  rw [hname]
  constructor
  · rintro ⟨entry, hentry, rfl⟩
    obtain ⟨holder, hmem, hnamed, rfl⟩ := (h.endpoints _ _).mp hentry
    exact ⟨holder, hmem, hnamed, rfl⟩
  · rintro ⟨holder, hmem, hnamed, rfl⟩
    exact ⟨holder.toEndpoint, (h.endpoints _ _).mpr ⟨holder, hmem, hnamed, rfl⟩, rfl⟩

/-- A registration that fails changes no answer. -/
theorem same_answers_of_error {failure : RegistryError}
    (h : (registry.enter definition).1 = .error failure) :
    SameAnswers (registry.enter definition).2 registry := by
  rw [enter_of_error h]
  exact ⟨fun _ _ ↦ rfl, fun _ ↦ rfl, rfl, rfl⟩

/-- Where types of one name have one policy, the definitions that are offered determine every
outcome and every answer. A registration fails for what is not an endpoint, otherwise for a name
that an earlier accepted definition has, and otherwise succeeds; one that fails changes no answer.
After the run a call resolves by the accepted definition of its name: to the last declaration of the
method in the nearest type that declares it, with the policies of that method and of that type. -/
theorem run_spec (definitions : List TypeDefinition) (hpolicies : PoliciesAgree definitions) :
    (∀ earlier definition later, definitions = earlier ++ definition :: later →
      (∀ typeName,
        ((empty.enterAll earlier).enter definition).1 = .error (.notAnEndpoint typeName) ↔
          definition.own.isEndpoint = false ∧ typeName = definition.own.typeName) ∧
      (∀ name existing,
        ((empty.enterAll earlier).enter definition).1 = .error (.duplicateEndpoint name existing) ↔
          definition.own.isEndpoint = true ∧ name = definition.own.endpointName ∧
            ∃ holder ∈ empty.accepted earlier, holder.IsNamed definition.own.endpointName ∧
              existing = holder.own.typeName) ∧
      ((∃ records, ((empty.enterAll earlier).enter definition).1 = .ok records) ↔
        definition.own.isEndpoint = true ∧
          ∀ holder ∈ empty.accepted earlier, ¬ holder.IsNamed definition.own.endpointName) ∧
      (∀ failure, ((empty.enterAll earlier).enter definition).1 = .error failure →
        SameAnswers ((empty.enterAll earlier).enter definition).2 (empty.enterAll earlier))) ∧
    (∀ endpoint method,
      ((empty.enterAll definitions).resolve endpoint method).isSome ↔
        ∃ definition ∈ empty.accepted definitions, definition.IsNamed endpoint ∧
          ∃ record ∈ definition.chain, record.Declares method) ∧
    (∀ endpoint method resolved,
      (empty.enterAll definitions).resolve endpoint method = some resolved ↔
        ∃ definition ∈ empty.accepted definitions, definition.IsNamed endpoint ∧
          ∃ record found, definition.Offers method record found ∧
            resolved = definition.resolution record found record.policy) := by
  refine ⟨?_, ?_, ?_⟩
  · intro earlier definition later _
    have hearlier := represents_run earlier
    refine ⟨enter_not_endpoint_iff, hearlier.duplicate_iff, ?_, fun _ ↦ same_answers_of_error⟩
    rw [enter_ok_iff, Accepts, hearlier.find_eq_none_iff]
  · exact (represents_run definitions).resolve_is_some_iff
  · intro endpoint method resolved
    have hrun := represents_run definitions
    have hagree := policies_agree_subset (accepted_subset empty definitions) hpolicies
    rw [hrun.resolve_eq_some_iff]
    refine exists_congr fun definition ↦ and_congr_right fun hmem ↦ and_congr_right fun _ ↦ ?_
    refine exists_congr fun record ↦ exists_congr fun found ↦ and_congr_right fun hoffers ↦ ?_
    have hrecord := List.mem_flatMap.mpr ⟨definition, hmem, hoffers.mem_chain⟩
    simp [hrun.type_policy_eq hagree hrecord]

/-- Two endpoints of the showcase extend one service, and the first of them is offered twice. A call
still reaches the method that it inherits. -/
theorem catalog_run_resolves :
    PoliciesAgree [Showcase.catalog "app", Showcase.inventory "app", Showcase.catalog "app"] ∧
      (empty.enterAll [Showcase.catalog "app", Showcase.inventory "app",
          Showcase.catalog "app"]).resolve "Catalog" "COUNT" =
        some ((Showcase.catalog "app").resolution (Showcase.crudService "app").own
          ⟨"count", .ofMarkers [.permitAll]⟩ .unspecified) := by
  have hpolicies :
      PoliciesAgree [Showcase.catalog "app", Showcase.inventory "app", Showcase.catalog "app"] := by
    unfold PoliciesAgree
    decide +kernel
  refine ⟨hpolicies, ((run_spec _ hpolicies).2.2 _ _ _).mpr ?_⟩
  refine ⟨Showcase.catalog "app", by decide +kernel, by decide +kernel,
    (Showcase.crudService "app").own, ⟨"count", .ofMarkers [.permitAll]⟩, ?_, rfl⟩
  refine ⟨[(Showcase.catalog "app").own], [], rfl, ?_, ?_⟩
  · unfold TypeRecord.Declares
    decide +kernel
  · exact ⟨[⟨"list", .unspecified⟩], [], rfl, by decide +kernel, by simp⟩

end Registry

end EndpointGuard
