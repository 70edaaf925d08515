import EndpointGuard.Proofs.Isolation

/-!
# The methods that a registered type declares

What becomes of the methods of a type when the type is registered as an endpoint. They hide what is
inherited, but they are entered under their names in lower case, and of several methods with one key
the last one stays without a word about the others. Read `own_methods_found_iff` first: a call of
each declared method reaches that method exactly if no two names differ in case alone.
-/

namespace EndpointGuard

namespace Registry

/-- A call of each method that the type itself declares reaches that method, with its own policy,
as one that the type declares. -/
def FindsOwnMethods (registry : Registry) (definition : TypeDefinition) : Prop :=
  ∀ method ∈ definition.own.methods, ∃ resolved,
    registry.resolve definition.own.endpointName method.name = some resolved ∧
      resolved.method = method.name ∧ resolved.target.method = method.policy ∧
      resolved.declaringType = definition.own.typeName

variable {definition : TypeDefinition} {name : String} {method last : MethodDefinition}

/-- Of the methods of a name that a type declares, there is a last one. -/
theorem exists_declares_last {record : TypeRecord} (h : record.Declares name) :
    ∃ last, record.DeclaresLast name last := by
  cases hoffered : record.offered? name with
  | none => exact absurd h (TypeRecord.offered_eq_none_iff.mp hoffered)
  | some offered =>
      obtain ⟨last, hlast, -⟩ := TypeRecord.offered_eq_some_iff.mp hoffered
      exact ⟨last, hlast⟩

/-- The last one is a method of the type, and has the name up to case. -/
theorem mem_of_declares_last {record : TypeRecord} (h : record.DeclaresLast name last) :
    last ∈ record.methods ∧ Text.lowerCase last.name = Text.lowerCase name := by
  obtain ⟨before, after, hmethods, hname, -⟩ := h
  exact ⟨by simp [hmethods], hname⟩

/-- The policy that a definition enters for its own type is that of the type. -/
theorem policy_of_own (definition : TypeDefinition) :
    definition.policyOf? definition.own.typeName = some definition.own.policy := by
  simp [TypeDefinition.policyOf?, TypeDefinition.chain]

/-- After a definition is added, a call of a method that its type declares reaches the last one of
the name. -/
theorem resolve_own (registry : Registry) (h : definition.own.DeclaresLast name last) :
    (registry.add definition).resolve definition.own.endpointName name =
      some (definition.resolution definition.own last definition.own.policy) := by
  have hentry : (registry.add definition).find? definition.own.endpointName =
      some definition.toEndpoint := by
    have hnamed : definition.IsNamed definition.own.endpointName := rfl
    rw [find_add, if_pos hnamed]
  have hoffers : definition.Offers name definition.own last :=
    ⟨[], definition.ancestors, rfl, fun _ hnone ↦ absurd hnone List.not_mem_nil, h⟩
  have hoffered : definition.offeredMethods.get? (Text.lowerCase name) =
      some (definition.own.offering last) :=
    TypeDefinition.offered_eq_some_iff.mpr ⟨definition.own, last, hoffers, rfl⟩
  have hpolicy : (registry.add definition).types.get? definition.own.typeName =
      some definition.own.policy := by
    rw [add_types_get, policy_of_own, Option.some_or]
  simp [resolve, hentry, TypeDefinition.toEndpoint, hoffered, TypeRecord.offering, hpolicy,
    TypeDefinition.resolution]

/-- Where the declared names stay different in lower case, each declared method is the last one of
its name. -/
theorem declares_last_of_nodup {record : TypeRecord}
    (hdistinct : (record.methods.map fun method ↦ Text.lowerCase method.name).Nodup)
    (hmethod : method ∈ record.methods) : record.DeclaresLast method.name method := by
  obtain ⟨last, hlast⟩ := exists_declares_last ⟨method, hmethod, rfl⟩
  obtain ⟨hmem, hname⟩ := mem_of_declares_last hlast
  rwa [List.inj_on_of_nodup_map hdistinct hmem hmethod hname] at hlast

/-- A successful registration, after any run, makes a call of a declared method reach the last
method that the type declares under the name, whatever its case. Where the declared names are
different as written, this is the method itself for all of them exactly if the names are different
in lower case as well. -/
theorem own_methods_found_iff (earlier : List TypeDefinition) (definition : TypeDefinition)
    (haccepted : ∃ records, ((empty.enterAll earlier).enter definition).1 = .ok records) :
    (∀ method ∈ definition.own.methods, ∃ last,
      definition.own.DeclaresLast method.name last ∧
      ((empty.enterAll earlier).enter definition).2.resolve definition.own.endpointName
          method.name =
        some (definition.resolution definition.own last definition.own.policy)) ∧
    ((definition.own.methods.map MethodDefinition.name).Nodup →
      (((empty.enterAll earlier).enter definition).2.FindsOwnMethods definition ↔
        (definition.own.methods.map fun method ↦ Text.lowerCase method.name).Nodup)) := by
  rw [enter_of_accepts (enter_ok_iff.mp haccepted)]
  refine ⟨?_, fun hwritten ↦ ⟨?_, ?_⟩⟩
  · intro method hmethod
    obtain ⟨last, hlast⟩ := exists_declares_last ⟨method, hmethod, rfl⟩
    exact ⟨last, hlast, resolve_own _ hlast⟩
  · intro hfinds
    refine List.Nodup.map_on ?_ (List.Nodup.of_map _ hwritten)
    intro first hfirst second hsecond hkey
    obtain ⟨resolved, hresolved, hname, -⟩ := hfinds first hfirst
    obtain ⟨other, hother, hotherName, -⟩ := hfinds second hsecond
    -- One key, so one answer, and it has the name of both.
    have hsame : resolved = other := by
      rw [resolve, hkey, ← resolve, hother] at hresolved
      exact (Option.some.inj hresolved).symm
    refine List.inj_on_of_nodup_map hwritten hfirst hsecond ?_
    rw [← hname, hsame, hotherName]
  · intro hdistinct method hmethod
    exact ⟨_, resolve_own _ (declares_last_of_nodup hdistinct hmethod), rfl, rfl, rfl⟩

/-- An endpoint without markers of its own that declares a method for everyone known behind one that
is denied to everyone. -/
def lockedThenOpen (locked opened : String) : TypeDefinition where
  own := {
    typeName := "app::Vault"
    simpleName := "Vault"
    isEndpoint := true
    methods := [⟨locked, .ofMarkers [.denyAll]⟩, ⟨opened, .ofMarkers [.permitAll]⟩] }

/-- Methods whose names differ in more than case are both found. -/
theorem own_methods_found_apart :
    (∃ records, ((empty.enterAll [Showcase.catalog "app"]).enter
      (lockedThenOpen "open" "openAll")).1 = .ok records) ∧
    ((lockedThenOpen "open" "openAll").own.methods.map MethodDefinition.name).Nodup ∧
    ((empty.enterAll [Showcase.catalog "app"]).enter
      (lockedThenOpen "open" "openAll")).2.FindsOwnMethods (lockedThenOpen "open" "openAll") := by
  have haccepted : ∃ records, ((empty.enterAll [Showcase.catalog "app"]).enter
      (lockedThenOpen "open" "openAll")).1 = .ok records := ⟨_, rfl⟩
  have hwritten : ((lockedThenOpen "open" "openAll").own.methods.map
      MethodDefinition.name).Nodup := by decide
  refine ⟨haccepted, hwritten, ?_⟩
  refine ((own_methods_found_iff [Showcase.catalog "app"] _ haccepted).2 hwritten).mpr ?_
  decide +kernel

/-- Of two methods whose names differ in case alone, the one that is denied to everyone is lost
without an error: calls of it reach the other one, and a known caller is let in. -/
theorem own_method_lost :
    (∃ records, (empty.enter (lockedThenOpen "open" "Open")).1 = .ok records) ∧
    ((lockedThenOpen "open" "Open").own.methods.map MethodDefinition.name).Nodup ∧
    (empty.enter (lockedThenOpen "open" "Open")).2.decideCall (.standard false) "Vault" "open"
      (some (.named "ada")) = some .allowed ∧
    ¬ (empty.enter (lockedThenOpen "open" "Open")).2.FindsOwnMethods
      (lockedThenOpen "open" "Open") := by
  refine ⟨⟨_, rfl⟩, by decide, by decide +kernel, ?_⟩
  intro hfinds
  obtain ⟨resolved, hresolved, hname, -⟩ := hfinds ⟨"open", .ofMarkers [.denyAll]⟩
    List.mem_cons_self
  have hother : ((empty.enter (lockedThenOpen "open" "Open")).2.resolve "Vault" "open").map
      ResolvedMethod.method = some "Open" := by decide +kernel
  rw [show (lockedThenOpen "open" "Open").own.endpointName = "Vault" from rfl] at hresolved
  rw [hresolved, Option.map_some, hname] at hother
  exact absurd hother (by decide)

end Registry

end EndpointGuard
