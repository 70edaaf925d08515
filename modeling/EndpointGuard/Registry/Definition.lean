import EndpointGuard.Policy

/-!
# Definitions of endpoint types

What is declared about a type whose methods may be called: its names, its policy, its methods with
their policies, and the types it extends. A definition carries the whole chain of extended types.
-/

namespace EndpointGuard

/-- A method and its own policy. -/
structure MethodDefinition where
  name : String
  policy : Policy
deriving DecidableEq

/-- What one type declares itself. `givenName` is the endpoint name given in place of the simple
name, and `isEndpoint` tells whether the type can be called at all. -/
structure TypeRecord where
  typeName : String
  simpleName : String
  givenName : Option String := none
  isEndpoint : Bool := false
  policy : Policy := .unspecified
  methods : List MethodDefinition := []
deriving DecidableEq

namespace TypeRecord

/-- Make the type an endpoint, under the given name unless that is absent or empty. -/
def asEndpoint (record : TypeRecord) (name : Option String) : TypeRecord :=
  { record with isEndpoint := true, givenName := name.filter (· ≠ "") }

/-- Declare one more method. -/
def withMethod (record : TypeRecord) (name : String) (policy : Policy) : TypeRecord :=
  { record with methods := record.methods ++ [⟨name, policy⟩] }

/-- The name under which the type is called. -/
def endpointName (record : TypeRecord) : String :=
  record.givenName.getD record.simpleName

end TypeRecord

/-- A type with the types it extends, the nearest first. -/
structure TypeDefinition where
  own : TypeRecord
  ancestors : List TypeRecord := []
deriving DecidableEq

namespace TypeDefinition

/-- The type and the types it extends, the nearest first. -/
def chain (definition : TypeDefinition) : List TypeRecord :=
  definition.own :: definition.ancestors

/-- Extend a type, in place of what was extended before. -/
def extending (definition parent : TypeDefinition) : TypeDefinition :=
  { definition with ancestors := parent.chain }

/-- The definition of the type that is extended. -/
def parent? (definition : TypeDefinition) : Option TypeDefinition :=
  match definition.ancestors with
  | [] => none
  | own :: ancestors => some ⟨own, ancestors⟩

end TypeDefinition

end EndpointGuard
