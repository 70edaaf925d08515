import EndpointGuard.Proofs.KeyedList
import EndpointGuard.Registry

/-!
# What a chain of types offers

The methods and the type policies that a definition brings into the registry, read off its chain of
types. `offered_eq_some_iff` says which declaration of a method counts: the last one of the nearest
type that declares it. `type_policies_find` does the same for the policy of a type name.
-/

namespace EndpointGuard

namespace TypeRecord

/-- The type itself declares a method of the name; case does not matter. -/
def Declares (record : TypeRecord) (name : String) : Prop :=
  ∃ method ∈ record.methods, Text.lowerCase method.name = Text.lowerCase name

/-- Of the methods of the name that the type declares, this one is the last. -/
def DeclaresLast (record : TypeRecord) (name : String) (method : MethodDefinition) : Prop :=
  ∃ before after, record.methods = before ++ method :: after ∧
    Text.lowerCase method.name = Text.lowerCase name ∧
    ∀ other ∈ after, Text.lowerCase other.name ≠ Text.lowerCase name

/-- The form in which the type offers one of its methods. -/
def offering (record : TypeRecord) (method : MethodDefinition) : OfferedMethod where
  name := method.name
  declaringType := record.typeName
  policy := method.policy

/-- The method of the name that the type itself offers. -/
def offered? (record : TypeRecord) (name : String) : Option OfferedMethod :=
  record.methods.reverse.findSome? fun method ↦
    if Text.lowerCase method.name = Text.lowerCase name then some (record.offering method) else none

variable {record : TypeRecord} {name : String}

/-- A type offers the last of its methods of the name. -/
theorem offered_eq_some_iff {offered : OfferedMethod} :
    record.offered? name = some offered ↔
      ∃ method, record.DeclaresLast name method ∧ offered = record.offering method := by
  rw [offered?, List.findSome?_eq_some_iff]
  constructor
  · rintro ⟨after, method, before, hmethods, hoffered, hafter⟩
    simp only [Option.ite_none_right_eq_some, Option.some.injEq] at hoffered
    refine ⟨method, ⟨before.reverse, after.reverse, ?_, hoffered.1, ?_⟩, hoffered.2.symm⟩
    · simpa using congrArg List.reverse hmethods
    · intro other hother hname
      simpa [hname] using hafter other (by simpa using hother)
  · rintro ⟨method, ⟨before, after, hmethods, hname, hafter⟩, rfl⟩
    refine ⟨after.reverse, method, before.reverse, by simp [hmethods], by simp [hname], ?_⟩
    intro other hother
    simpa using hafter other (by simpa using hother)

/-- A type offers nothing exactly for the names of which it declares no method. -/
theorem offered_eq_none_iff : record.offered? name = none ↔ ¬ record.Declares name := by
  simp only [offered?, List.findSome?_eq_none_iff, List.mem_reverse, Declares, not_exists, not_and]
  refine forall_congr' fun method ↦ forall_congr' fun _ ↦ ?_
  simp

/-- Entering the methods of a type hides the methods of their names that were there before. -/
theorem offer_get (methods : KeyedList String OfferedMethod) :
    (record.offer methods).get? (Text.lowerCase name) =
      (record.offered? name).or (methods.get? (Text.lowerCase name)) := by
  rw [offer, KeyedList.get_insert_all, KeyedList.find_eq_find_some, ← List.map_reverse,
    List.findSome?_map]
  rfl

end TypeRecord

namespace TypeDefinition

/-- A call of the name reaches this method: it is the last one of the name that the nearest type
declares which declares any. -/
def Offers (definition : TypeDefinition) (name : String) (record : TypeRecord)
    (method : MethodDefinition) : Prop :=
  ∃ nearer farther, definition.chain = nearer ++ record :: farther ∧
    (∀ other ∈ nearer, ¬ other.Declares name) ∧ record.DeclaresLast name method

/-- The policy of the nearest type of the name in the chain. -/
def policyOf? (definition : TypeDefinition) (typeName : String) : Option Policy :=
  (definition.chain.find? (·.typeName = typeName)).map TypeRecord.policy

variable {definition : TypeDefinition} {name typeName : String}

/-- A type is the first of its chain. -/
theorem own_mem_chain (definition : TypeDefinition) : definition.own ∈ definition.chain :=
  List.mem_cons_self

/-- The type that an offered method comes from stands in the chain. -/
theorem Offers.mem_chain {record : TypeRecord} {method : MethodDefinition}
    (h : definition.Offers name record method) : record ∈ definition.chain := by
  obtain ⟨nearer, farther, hchain, _⟩ := h
  simp [hchain]

/-- The methods of a definition are looked up along its chain. -/
theorem offered_methods_get :
    definition.offeredMethods.get? (Text.lowerCase name) =
      definition.chain.findSome? fun record ↦ record.offered? name := by
  unfold offeredMethods
  rw [List.foldl_reverse]
  -- From the farthest type on, each type hides what those behind it declare.
  induction definition.chain with
  | nil => rfl
  | cons record farther ih =>
      rw [List.foldr_cons, TypeRecord.offer_get, ih, List.findSome?_cons]
      cases record.offered? name <;> rfl

/-- The definition offers under a name what `Offers` says. -/
theorem offered_eq_some_iff {offered : OfferedMethod} :
    definition.offeredMethods.get? (Text.lowerCase name) = some offered ↔
      ∃ record method, definition.Offers name record method ∧
        offered = record.offering method := by
  simp only [offered_methods_get, List.findSome?_eq_some_iff, TypeRecord.offered_eq_some_iff,
    TypeRecord.offered_eq_none_iff, Offers]
  constructor
  · rintro ⟨nearer, record, farther, hchain, ⟨method, hlast, hoffered⟩, hnearer⟩
    exact ⟨record, method, ⟨nearer, farther, hchain, hnearer, hlast⟩, hoffered⟩
  · rintro ⟨record, method, ⟨nearer, farther, hchain, hnearer, hlast⟩, hoffered⟩
    exact ⟨nearer, record, farther, hchain, ⟨method, hlast, hoffered⟩, hnearer⟩

/-- The definition offers something under a name exactly when a type of its chain declares a method
of that name. -/
theorem offered_is_some_iff :
    (definition.offeredMethods.get? (Text.lowerCase name)).isSome ↔
      ∃ record ∈ definition.chain, record.Declares name := by
  rw [offered_methods_get, List.findSome?_isSome_iff]
  refine exists_congr fun record ↦ and_congr_right fun _ ↦ ?_
  rw [← Option.ne_none_iff_isSome, Ne, TypeRecord.offered_eq_none_iff, Classical.not_not]

/-- Of the policies that a definition enters for a type name, the one of the nearest type counts. -/
theorem type_policies_find :
    KeyedList.find? typeName definition.typePolicies.reverse = definition.policyOf? typeName := by
  unfold typePolicies policyOf?
  rw [← List.map_reverse, List.reverse_reverse]
  induction definition.chain with
  | nil => rfl
  | cons record farther ih =>
      rw [List.map_cons, KeyedList.find?, ih, List.find?_cons]
      by_cases h : record.typeName = typeName <;> simp [h]

end TypeDefinition

end EndpointGuard
