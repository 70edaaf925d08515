import EndpointGuard.Proofs.Isolation
import EndpointGuard.Proofs.Utf8

/-!
# Listing and lookup

The names that a registry lists against the names under which it answers. `Keyed` is the invariant:
endpoints and methods are kept under their own names in lower case. It holds of the empty registry
and is preserved by every registration (`Keyed.enter`), and so it holds after every run
(`keyed_run`). Read `listing_coherent` first: after any run the two listings are in strictly
ascending order, what they list is found, and what is found is listed.
-/

namespace EndpointGuard

/-- The bytes of the first text come before those of the second. -/
def BytesBefore (first second : String) : Prop :=
  Text.utf8Bytes first < Text.utf8Bytes second

instance (first second : String) : Decidable (BytesBefore first second) :=
  inferInstanceAs (Decidable (Text.utf8Bytes first < Text.utf8Bytes second))

/-- Values with different texts are sorted by these into strictly ascending order of the bytes. -/
theorem merge_sort_ascending {α : Type} (text : α → String) {values : List α}
    (h : (values.map text).Nodup) :
    (values.mergeSort fun a b ↦ text a ≤ text b).Pairwise
      fun a b ↦ BytesBefore (text a) (text b) := by
  have hsorted : (values.mergeSort fun a b ↦ text a ≤ text b).Pairwise
      fun a b ↦ decide (text a ≤ text b) = true := by
    refine List.pairwise_mergeSort ?_ ?_ values
    · intro a b c hab hbc
      exact decide_eq_true (String.le_trans (of_decide_eq_true hab) (of_decide_eq_true hbc))
    · intro a b
      simpa using String.le_total (text a) (text b)
  have hdistinct : (values.mergeSort fun a b ↦ text a ≤ text b).Pairwise
      fun a b ↦ text a ≠ text b :=
    List.pairwise_map.mp (((List.mergeSort_perm values _).map text).nodup_iff.mpr h)
  refine (hsorted.and hdistinct).imp fun {a b} hab ↦ ?_
  refine Text.utf8_bytes_lt (Decidable.of_not_not fun hlt ↦ hab.2 ?_)
  exact String.le_antisymm (of_decide_eq_true hab.1) (String.not_lt.mp hlt)

/-- Different texts are sorted into strictly ascending order of their bytes. -/
theorem sort_texts_ascending {texts : List String} (h : texts.Nodup) :
    (sortTexts texts).Pairwise BytesBefore :=
  merge_sort_ascending (fun text ↦ text) (by simpa using h)

/-- Sorting keeps the texts. -/
theorem mem_sort_texts {text : String} {texts : List String} :
    text ∈ sortTexts texts ↔ text ∈ texts :=
  List.mem_mergeSort

namespace Registry

/-- Endpoints and methods are kept under their own names in lower case. -/
structure Keyed (registry : Registry) : Prop where
  endpoints : registry.endpoints.KeyedBy fun entry ↦ Text.lowerCase entry.name
  methods : ∀ entry ∈ registry.endpoints.values,
    entry.methods.KeyedBy fun offered ↦ Text.lowerCase offered.name

variable {registry : Registry} {definition : TypeDefinition}

/-- The methods of a definition are entered under their own names in lower case. -/
theorem offered_methods_keyed (definition : TypeDefinition) :
    definition.offeredMethods.KeyedBy fun offered ↦ Text.lowerCase offered.name := by
  have hoffer : ∀ (records : List TypeRecord) (methods : KeyedList String OfferedMethod),
      (methods.KeyedBy fun offered ↦ Text.lowerCase offered.name) →
      (records.foldl (fun methods record ↦ record.offer methods) methods).KeyedBy
        fun offered ↦ Text.lowerCase offered.name := by
    intro records
    induction records with
    | nil => exact fun _ h ↦ h
    | cons record rest ih =>
        intro methods h
        refine ih _ (h.insert_all ?_)
        intro pair hpair
        obtain ⟨method, _, rfl⟩ := List.mem_map.mp hpair
        rfl
  exact hoffer _ _ fun pair hpair ↦ absurd hpair List.not_mem_nil

/-- A registration keeps the registry keyed, whether it succeeds or not. -/
theorem Keyed.enter (h : registry.Keyed) (definition : TypeDefinition) :
    (registry.enter definition).2.Keyed := by
  by_cases haccepts : registry.Accepts definition
  · rw [enter_of_accepts haccepts]
    refine ⟨h.endpoints.insert rfl, ?_⟩
    intro entry hentry
    obtain ⟨⟨key, _⟩, hpair, rfl⟩ := List.mem_map.mp hentry
    rcases KeyedList.mem_put hpair with hnew | hold
    · rw [Prod.mk.inj hnew |>.2]
      exact offered_methods_keyed definition
    · exact h.methods _ (List.mem_map.mpr ⟨_, hold, rfl⟩)
  · obtain ⟨_, henter⟩ := enter_of_not_accepts haccepts
    rw [henter]
    exact h

/-- Every run on the empty registry leaves a keyed one. -/
theorem keyed_run (definitions : List TypeDefinition) : (empty.enterAll definitions).Keyed := by
  have hrun : ∀ registry : Registry, registry.Keyed → (registry.enterAll definitions).Keyed := by
    induction definitions with
    | nil => exact fun _ h ↦ h
    | cons definition rest ih => exact fun _ h ↦ ih _ (h.enter definition)
  refine hrun empty ⟨?_, ?_⟩
  · exact fun pair hpair ↦ absurd hpair List.not_mem_nil
  · exact fun entry hentry ↦ absurd hentry List.not_mem_nil

/-! ## Answers and entries -/

variable {held : List TypeDefinition} {name method : String} {entry : Endpoint}

/-- Every entry is answered: the policy of its type is known. -/
theorem Represents.endpoint_of_entry (h : Represents registry held)
    (hentry : registry.find? name = some entry) :
    ∃ found, registry.endpoint name = some found ∧ found.name = entry.name ∧
      found.methodNames = sortTexts (entry.methods.values.map OfferedMethod.name) := by
  obtain ⟨policy, hpolicy⟩ := h.registered_known hentry
  exact ⟨⟨entry.name, entry.typeName, policy,
    sortTexts (entry.methods.values.map OfferedMethod.name)⟩,
    by simp [endpoint, hentry, hpolicy], rfl, rfl⟩

/-- Every method of an entry is answered: the policy of its declaring type is known. -/
theorem Represents.resolve_of_offered (h : Represents registry held)
    (hentry : registry.find? name = some entry) {offered : OfferedMethod}
    (hoffered : entry.methods.get? (Text.lowerCase method) = some offered) :
    ∃ resolved, registry.resolve name method = some resolved ∧
      resolved.endpoint = entry.name ∧ resolved.method = offered.name := by
  obtain ⟨policy, hpolicy⟩ := h.declaring_known hentry hoffered
  exact ⟨⟨entry.name, offered.name, offered.declaringType, ⟨offered.policy, policy⟩⟩,
    by simp [resolve, hentry, hoffered, hpolicy], rfl, rfl⟩

/-- What is answered about an endpoint comes from an entry. -/
theorem entry_of_endpoint {found : ResolvedEndpoint} (h : registry.endpoint name = some found) :
    ∃ entry, registry.find? name = some entry := by
  simp only [endpoint, Option.bind_eq_bind, Option.bind_eq_some_iff] at h
  obtain ⟨entry, hentry, _⟩ := h
  exact ⟨entry, hentry⟩

/-- What a call resolves to comes from a method of an entry. -/
theorem offered_of_resolve {resolved : ResolvedMethod}
    (h : registry.resolve name method = some resolved) :
    ∃ entry offered, registry.find? name = some entry ∧
      entry.methods.get? (Text.lowerCase method) = some offered ∧
      resolved.endpoint = entry.name ∧ resolved.method = offered.name := by
  simp only [resolve, Option.bind_eq_bind, Option.bind_eq_some_iff, Option.pure_def,
    Option.some.injEq] at h
  obtain ⟨entry, hentry, offered, hoffered, _, _, rfl⟩ := h
  exact ⟨entry, offered, hentry, hoffered, rfl, rfl⟩

/-- The listed names are those of the entries. -/
theorem mem_endpoint_names :
    name ∈ registry.endpointNames ↔ ∃ entry ∈ registry.endpoints.values, entry.name = name := by
  rw [endpointNames, mem_sort_texts, List.mem_map]

/-- An entry is found by its name. -/
theorem Keyed.find_of_mem (h : registry.Keyed) (hentry : entry ∈ registry.endpoints.values) :
    registry.find? entry.name = some entry :=
  h.endpoints.get_of_mem hentry

/-- An entry that is found by a name has that name, up to case. -/
theorem Keyed.mem_of_find (h : registry.Keyed) (hentry : registry.find? name = some entry) :
    entry ∈ registry.endpoints.values ∧ Text.lowerCase entry.name = Text.lowerCase name :=
  h.endpoints.mem_of_get hentry

/-- Names that differ in lower case differ. -/
theorem nodup_of_lower_case {α : Type} {values : List α} {nameOf : α → String}
    (h : (values.map fun value ↦ Text.lowerCase (nameOf value)).Nodup) :
    (values.map nameOf).Nodup := by
  refine List.Nodup.of_map Text.lowerCase ?_
  rw [List.map_map]
  exact h

/-! ## Coherence -/

/-- The listings of a registry and its answers tell the same, and nothing is withheld because the
policy of a type is missing. -/
structure Coherent (registry : Registry) : Prop where
  names_ascending : registry.endpointNames.Pairwise BytesBefore
  length_names : registry.endpointNames.length = registry.size
  listed_found : ∀ name ∈ registry.endpointNames, ∃ found, registry.endpoint name = some found ∧
    found.name = name ∧ found.methodNames.Pairwise BytesBefore ∧
    ∀ method ∈ found.methodNames, ∃ resolved, registry.resolve name method = some resolved ∧
      resolved.endpoint = name ∧ resolved.method = method
  resolved_listed : ∀ name method resolved, registry.resolve name method = some resolved →
    ∃ found, registry.endpoint name = some found ∧ found.name = resolved.endpoint ∧
      resolved.method ∈ found.methodNames
  endpoint_is_some_iff : ∀ name, (registry.endpoint name).isSome ↔
    ∃ listed ∈ registry.endpointNames, Text.lowerCase listed = Text.lowerCase name
  endpoint_none_iff : ∀ name, registry.endpoint name = none ↔ registry.find? name = none
  resolve_none_iff : ∀ name method, registry.resolve name method = none ↔
    ∀ entry, registry.find? name = some entry →
      entry.methods.get? (Text.lowerCase method) = none

/-- A keyed registry that represents definitions is coherent. -/
theorem Represents.coherent (h : Represents registry held) (hkeyed : registry.Keyed) :
    registry.Coherent where
  names_ascending := sort_texts_ascending (nodup_of_lower_case hkeyed.endpoints.nodup)
  length_names := by
    rw [endpointNames, sortTexts, List.length_mergeSort, List.length_map, KeyedList.values,
      List.length_map]
    rfl
  listed_found := by
    intro name hname
    obtain ⟨entry, hmem, rfl⟩ := mem_endpoint_names.mp hname
    have hentry := hkeyed.find_of_mem hmem
    obtain ⟨found, hfound, hfoundName, hmethods⟩ := h.endpoint_of_entry hentry
    refine ⟨found, hfound, hfoundName, ?_, ?_⟩
    · rw [hmethods]
      exact sort_texts_ascending (nodup_of_lower_case (hkeyed.methods entry hmem).nodup)
    · intro method hmethod
      rw [hmethods, mem_sort_texts] at hmethod
      obtain ⟨offered, hoffered, rfl⟩ := List.mem_map.mp hmethod
      exact h.resolve_of_offered hentry ((hkeyed.methods entry hmem).get_of_mem hoffered)
  resolved_listed := by
    intro name method resolved hresolved
    obtain ⟨entry, offered, hentry, hoffered, hendpoint, hmethod⟩ := offered_of_resolve hresolved
    obtain ⟨found, hfound, hfoundName, hmethods⟩ := h.endpoint_of_entry hentry
    have hmem := (hkeyed.mem_of_find hentry).1
    have hvalue := ((hkeyed.methods entry hmem).mem_of_get hoffered).1
    refine ⟨found, hfound, hfoundName.trans hendpoint.symm, ?_⟩
    rw [hmethods, mem_sort_texts, hmethod]
    exact List.mem_map_of_mem hvalue
  endpoint_is_some_iff := by
    intro name
    rw [Option.isSome_iff_exists]
    constructor
    · rintro ⟨found, hfound⟩
      obtain ⟨entry, hentry⟩ := entry_of_endpoint hfound
      obtain ⟨hmem, hsame⟩ := hkeyed.mem_of_find hentry
      exact ⟨entry.name, mem_endpoint_names.mpr ⟨entry, hmem, rfl⟩, hsame⟩
    · rintro ⟨listed, hlisted, hsame⟩
      obtain ⟨entry, hmem, rfl⟩ := mem_endpoint_names.mp hlisted
      have hentry : registry.find? name = some entry := by
        rw [find?, ← hsame]
        exact hkeyed.find_of_mem hmem
      obtain ⟨found, hfound, _⟩ := h.endpoint_of_entry hentry
      exact ⟨found, hfound⟩
  endpoint_none_iff := by
    intro name
    cases hentry : registry.find? name with
    | none => simp [endpoint, hentry]
    | some entry =>
        obtain ⟨found, hfound, _⟩ := h.endpoint_of_entry hentry
        simp [hfound]
  resolve_none_iff := by
    intro name method
    cases hentry : registry.find? name with
    | none => simp [resolve, hentry]
    | some entry =>
        cases hoffered : entry.methods.get? (Text.lowerCase method) with
        | none => simp [resolve, hentry, hoffered]
        | some offered =>
            obtain ⟨resolved, hresolved, _⟩ := h.resolve_of_offered hentry hoffered
            simp [hresolved, hoffered]

/-- After any run of registrations, whatever their type names are, the registry lists the names of
the definitions it has accepted, and its listings and its answers tell the same. -/
theorem listing_coherent (definitions : List TypeDefinition) :
    (∀ name, name ∈ (empty.enterAll definitions).endpointNames ↔
      ∃ definition ∈ empty.accepted definitions, definition.own.endpointName = name) ∧
    (empty.enterAll definitions).Coherent := by
  have hrun := represents_run definitions
  have hkeyed := keyed_run definitions
  refine ⟨?_, hrun.coherent hkeyed⟩
  intro name
  rw [mem_endpoint_names]
  constructor
  · rintro ⟨entry, hmem, rfl⟩
    obtain ⟨definition, haccepted, _, rfl⟩ := (hrun.endpoints _ _).mp (hkeyed.find_of_mem hmem)
    exact ⟨definition, haccepted, rfl⟩
  · rintro ⟨definition, haccepted, rfl⟩
    have hentry := (hrun.endpoints _ _).mpr ⟨definition, haccepted, rfl, rfl⟩
    exact ⟨definition.toEndpoint, (hkeyed.mem_of_find hentry).1, rfl⟩

end Registry

end EndpointGuard
