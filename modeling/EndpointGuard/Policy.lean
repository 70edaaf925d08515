import EndpointGuard.NameSet

/-!
# Markers and policies

A marker states who may call: nobody, anyone, any authenticated caller, or the holders of a role.
A policy is what the markers of one scope, a method or a type, say together. `Policy.ofMarkers`
collects markers and `Policy.markers` lists what was collected.
-/

namespace EndpointGuard

/-- A statement about who may call. -/
inductive Marker where
  | denyAll
  | anonymousAllowed
  | permitAll
  | rolesAllowed (roles : List String)
deriving DecidableEq

namespace Marker

/-- The name of the marker's kind. -/
def name : Marker → String
  | .denyAll => "DenyAll"
  | .anonymousAllowed => "AnonymousAllowed"
  | .permitAll => "PermitAll"
  | .rolesAllowed _ => "RolesAllowed"

/-- The attribute that declares a marker of this kind. -/
def attributeText : Marker → String
  | .denyAll => "#[deny_all]"
  | .anonymousAllowed => "#[anonymous_allowed]"
  | .permitAll => "#[permit_all]"
  | .rolesAllowed _ => "#[roles_allowed]"

/-- The text of a marker, roles included. -/
def display : Marker → String
  | .rolesAllowed roles => "RolesAllowed(" ++ ", ".intercalate roles ++ ")"
  | marker => marker.name

end Marker

/-- What the markers of one scope say together. `roles` is absent when no marker names roles, and
present but empty when one names none. -/
structure Policy where
  denyAll : Bool
  anonymousAllowed : Bool
  permitAll : Bool
  roles : Option NameSet
deriving DecidableEq

namespace Policy

/-- The policy of a scope without markers. -/
def unspecified : Policy where
  denyAll := false
  anonymousAllowed := false
  permitAll := false
  roles := none

/-- Allow also the holders of these roles. -/
def allowRoles (policy : Policy) (roles : List String) : Policy :=
  { policy with roles := some ((policy.roles.getD .empty).insertAll roles) }

/-- The policy with one more marker. -/
def withMarker (policy : Policy) : Marker → Policy
  | .denyAll => { policy with denyAll := true }
  | .anonymousAllowed => { policy with anonymousAllowed := true }
  | .permitAll => { policy with permitAll := true }
  | .rolesAllowed roles => policy.allowRoles roles

/-- The policy of a list of markers, collected one after the other. -/
def ofMarkers (markers : List Marker) : Policy :=
  markers.foldl withMarker unspecified

/-- Some marker was given, an empty list of roles included. -/
def isSpecified (policy : Policy) : Bool :=
  policy.denyAll || policy.anonymousAllowed || policy.permitAll || policy.roles.isSome

/-- The markers that make up the policy, the strictest kind first. -/
def markers (policy : Policy) : List Marker :=
  (if policy.denyAll then [.denyAll] else []) ++
  (if policy.anonymousAllowed then [.anonymousAllowed] else []) ++
  (if policy.permitAll then [.permitAll] else []) ++
  (policy.roles.map fun roles ↦ Marker.rolesAllowed roles.names).toList

/-- The text of a policy: its markers, or a word for their absence. -/
def display (policy : Policy) : String :=
  if policy.isSpecified then " + ".intercalate (policy.markers.map Marker.display)
  else "Unspecified"

end Policy

end EndpointGuard
