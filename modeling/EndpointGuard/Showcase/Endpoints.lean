import EndpointGuard.Registry

/-!
# The endpoints of the showcase

Endpoints that show every way of marking types and methods and of inheriting methods. Their type
names begin with the name of the module that declares them, which is a parameter.
-/

namespace EndpointGuard.Showcase

/-- A type of the module `home`, with its markers and its methods with their markers. -/
def declare (home simpleName : String) (markers : List Marker)
    (methods : List (String × List Marker)) : TypeRecord where
  typeName := home ++ "::" ++ simpleName
  simpleName := simpleName
  policy := .ofMarkers markers
  methods := methods.map fun (name, markers) ↦ ⟨name, .ofMarkers markers⟩

/-- No marker anywhere. -/
def unsecured (home : String) : TypeDefinition where
  own := (declare home "UnsecuredEndpoint" [] [("anything", [])]).asEndpoint none

/-- The type denies everyone, and two methods open up again. -/
def locked (home : String) : TypeDefinition where
  own :=
    (declare home "LockedEndpoint" [.denyAll]
      [("secret", []), ("maintenance", [.rolesAllowed ["ADMIN", "OPS"]]),
        ("status", [.permitAll])]).asEndpoint (some "locked")

/-- Open to anyone unless a method says otherwise. -/
def «public» (home : String) : TypeDefinition where
  own :=
    (declare home "PublicEndpoint" [.anonymousAllowed]
      [("hello", []), ("closed", [.denyAll]), ("members", [.permitAll])]).asEndpoint (some "public")

/-- Open to every authenticated caller unless a method says otherwise. -/
def members (home : String) : TypeDefinition where
  own :=
    (declare home "MemberEndpoint" [.permitAll]
      [("profile", []), ("ban", [.rolesAllowed ["ADMIN"]]), ("welcome", [.anonymousAllowed]),
        ("banner", [.anonymousAllowed, .rolesAllowed ["ADMIN"]])]).asEndpoint (some "members")

/-- Methods to inherit, without a marker on the type. -/
def crudService (home : String) : TypeDefinition where
  own := declare home "CrudService" [] [("list", []), ("count", [.permitAll])]

/-- Inherits methods unchanged. -/
def catalog (home : String) : TypeDefinition where
  own :=
    (declare home "CatalogEndpoint" [.anonymousAllowed] [("search", [])]).asEndpoint
      (some "catalog")
  ancestors := (crudService home).chain

/-- Declares the inherited methods again. -/
def inventory (home : String) : TypeDefinition where
  own :=
    (declare home "InventoryEndpoint" [.anonymousAllowed]
      [("list", []), ("count", [.rolesAllowed ["ADMIN"]])]).asEndpoint (some "inventory")
  ancestors := (crudService home).chain

/-- Methods to inherit whose type is marked. -/
def adminTools (home : String) : TypeDefinition where
  own := declare home "AdminTools" [.rolesAllowed ["ADMIN"]] [("purge", [])]

/-- Methods to inherit from a type that inherits itself. -/
def maintenanceTools (home : String) : TypeDefinition where
  own := declare home "MaintenanceTools" [] [("ping", [.permitAll])]
  ancestors := (adminTools home).chain

/-- Inherits over two levels. -/
def maintenance (home : String) : TypeDefinition where
  own :=
    (declare home "MaintenanceEndpoint" [.permitAll] [("report", [])]).asEndpoint
      (some "maintenance")
  ancestors := (maintenanceTools home).chain

/-- The endpoints in the order of their registration. -/
def endpoints (home : String) : List TypeDefinition :=
  [unsecured home, locked home, «public» home, members home, catalog home, inventory home,
    maintenance home]

/-- All types of the showcase. -/
def types (home : String) : List TypeDefinition :=
  endpoints home ++ [crudService home, adminTools home, maintenanceTools home]

/-- The registry with every endpoint of the showcase. -/
def registry (home : String) : Registry :=
  (endpoints home).foldl .add .empty

end EndpointGuard.Showcase
