import EndpointGuard.Policy
import EndpointGuard.Proofs.FirstMentions

/-!
# Policies and their own markers

A policy lists its own markers. `builtPolicy` is the policy that a sequence of calls on a builder
leaves, and `Policy.Says` tells which markers a policy already states. Read `policy_is_its_markers`
first: what is collected from the markers of a policy is the policy again, exactly the markers that
it says change nothing, and what is added later may be added to the list as well as to the policy.
-/

namespace EndpointGuard

/-! ## Building a policy -/

/-- A call on a policy that is being built: one of its own for each kind of marker, or one that
takes any marker. -/
inductive PolicyCall where
  | withMarker (marker : Marker)
  | denyAll
  | anonymousAllowed
  | permitAll
  | rolesAllowed (roles : List String)

/-- The policy after a call. -/
def PolicyCall.on (policy : Policy) : PolicyCall → Policy
  | .withMarker marker => policy.withMarker marker
  | .denyAll => { policy with denyAll := true }
  | .anonymousAllowed => { policy with anonymousAllowed := true }
  | .permitAll => { policy with permitAll := true }
  | .rolesAllowed roles => policy.allowRoles roles

/-- The policy that a sequence of calls builds. -/
def builtPolicy (calls : List PolicyCall) : Policy :=
  calls.foldl PolicyCall.on .unspecified

/-- The kinds of markers, the strictest first. -/
def kindsByStrictness : List String :=
  ["DenyAll", "AnonymousAllowed", "PermitAll", "RolesAllowed"]

/-- The policy already states what the marker says: the marker is one of its own, or names some of
the roles that one of its own names. -/
def Policy.Says (policy : Policy) (marker : Marker) : Prop :=
  marker ∈ policy.markers ∨
    ∃ known roles, .rolesAllowed known ∈ policy.markers ∧ marker = .rolesAllowed roles ∧
      ∀ role ∈ roles, role ∈ known

/-! ## The markers of a policy -/

/-- A policy is what its own markers say together. -/
theorem of_markers_markers (policy : Policy) : Policy.ofMarkers policy.markers = policy := by
  obtain ⟨denyAll, anonymousAllowed, permitAll, roles⟩ := policy
  have hroles : ∀ set : NameSet, NameSet.empty.insertAll set.names = set := NameSet.of_list_names
  cases denyAll <;> cases anonymousAllowed <;> cases permitAll <;> cases roles <;>
    simp [Policy.ofMarkers, Policy.markers, Policy.withMarker, Policy.allowRoles,
      Policy.unspecified, hroles]

namespace Policy

variable (policy : Policy)

/-- The markers of a policy name each of its statements. -/
theorem mem_markers_iff (marker : Marker) :
    marker ∈ policy.markers ↔
      match marker with
      | .denyAll => policy.denyAll = true
      | .anonymousAllowed => policy.anonymousAllowed = true
      | .permitAll => policy.permitAll = true
      | .rolesAllowed roles => ∃ set, policy.roles = some set ∧ roles = set.names := by
  obtain ⟨denyAll, anonymousAllowed, permitAll, roles⟩ := policy
  cases marker <;> cases denyAll <;> cases anonymousAllowed <;> cases permitAll <;>
    cases roles <;> simp [markers]

/-- Each kind of marker stands at most once in the list, a stricter one in front. -/
theorem markers_by_strictness : (policy.markers.map Marker.name).Sublist kindsByStrictness := by
  obtain ⟨denyAll, anonymousAllowed, permitAll, roles⟩ := policy
  cases denyAll <;> cases anonymousAllowed <;> cases permitAll <;> cases roles <;>
    simp [markers, Marker.name, kindsByStrictness]

/-- Allowing roles changes nothing exactly when roles are allowed already and these are among
them. -/
theorem allow_roles_eq_self_iff (roles : List String) :
    policy.allowRoles roles = policy ↔
      ∃ set, policy.roles = some set ∧ ∀ role ∈ roles, role ∈ set.names := by
  obtain ⟨denyAll, anonymousAllowed, permitAll, known⟩ := policy
  cases known with
  | none => simp [allowRoles]
  | some set => simp [allowRoles, NameSet.insert_all_eq_self_iff]

/-- The roles of a marker that a policy says are among those that it names. -/
theorem says_roles_iff (roles : List String) :
    policy.Says (.rolesAllowed roles) ↔
      ∃ set, policy.roles = some set ∧ ∀ role ∈ roles, role ∈ set.names := by
  unfold Says
  simp only [mem_markers_iff, Marker.rolesAllowed.injEq]
  constructor
  · rintro (⟨set, hset, rfl⟩ | ⟨known, _, ⟨set, hset, rfl⟩, rfl, hall⟩)
    · exact ⟨set, hset, fun _ hrole ↦ hrole⟩
    · exact ⟨set, hset, hall⟩
  · rintro ⟨set, hset, hall⟩
    exact .inr ⟨set.names, roles, ⟨set, hset, rfl⟩, rfl, hall⟩

/-- A marker changes nothing exactly when the policy already says it. -/
theorem with_marker_eq_self_iff (marker : Marker) :
    policy.withMarker marker = policy ↔ policy.Says marker := by
  cases marker with
  | rolesAllowed roles =>
      rw [says_roles_iff]
      exact policy.allow_roles_eq_self_iff roles
  | denyAll =>
      cases policy
      simp [withMarker, Says, mem_markers_iff, eq_comm]
  | anonymousAllowed =>
      cases policy
      simp [withMarker, Says, mem_markers_iff, eq_comm]
  | permitAll =>
      cases policy
      simp [withMarker, Says, mem_markers_iff, eq_comm]

/-- Markers collected behind others are collected behind the markers of the policy of those. -/
theorem of_markers_append (first second : List Marker) :
    ofMarkers (first ++ second) = ofMarkers ((ofMarkers first).markers ++ second) := by
  have hcollect : ∀ front, ofMarkers (front ++ second) =
      second.foldl withMarker (ofMarkers front) := by
    intro front
    exact List.foldl_append
  rw [hcollect, hcollect, of_markers_markers]

end Policy

/-- A policy is exactly its list of markers. Whatever calls built it, the list holds each kind at
most once, by strictness, and gives the policy again; calls that follow do the same to what was read
back. Exactly the markers that the policy says can be added without effect. A list of markers may be
exchanged for that of its policy before others are added. -/
theorem policy_is_its_markers :
    (∀ calls : List PolicyCall,
      ((builtPolicy calls).markers.map Marker.name).Sublist kindsByStrictness ∧
      Policy.ofMarkers (builtPolicy calls).markers = builtPolicy calls ∧
      (∀ further : List PolicyCall,
        further.foldl PolicyCall.on (.ofMarkers (builtPolicy calls).markers) =
          builtPolicy (calls ++ further)) ∧
      ∀ marker : Marker, (builtPolicy calls).withMarker marker = builtPolicy calls ↔
        (builtPolicy calls).Says marker) ∧
    ∀ first second : List Marker,
      Policy.ofMarkers (first ++ second) =
        .ofMarkers ((Policy.ofMarkers first).markers ++ second) := by
  refine ⟨fun calls ↦ ⟨?_, ?_, fun further ↦ ?_, fun marker ↦ ?_⟩, Policy.of_markers_append⟩
  · exact (builtPolicy calls).markers_by_strictness
  · exact of_markers_markers (builtPolicy calls)
  · rw [of_markers_markers, builtPolicy, builtPolicy, List.foldl_append]
  · exact (builtPolicy calls).with_marker_eq_self_iff marker

end EndpointGuard
