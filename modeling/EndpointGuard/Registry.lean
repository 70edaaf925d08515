import EndpointGuard.Checker
import EndpointGuard.KeyedList
import EndpointGuard.Registry.Definition
import EndpointGuard.Text.LowerCase

/-!
# The registry of endpoints

Registered endpoints with the methods they offer, inherited ones included. Names are compared in
lower case. Each method remembers the type that declares it, and the policy of that type is looked
up in a table which all endpoints share. `Registry.enter` offers a definition to the registry and
`Registry.resolve` finds the target of a call.
-/

namespace EndpointGuard

/-- A method as an endpoint offers it: its name as declared, the type that declares it, and its own
policy. -/
structure OfferedMethod where
  name : String
  declaringType : String
  policy : Policy
deriving DecidableEq

/-- A registered endpoint. `methods` is keyed by method names in lower case. -/
structure Endpoint where
  name : String
  typeName : String
  methods : KeyedList String OfferedMethod
deriving DecidableEq

/-- The registered endpoints, keyed by their names in lower case, and the policies of all types of
their chains, keyed by type name. -/
structure Registry where
  endpoints : KeyedList String Endpoint
  types : KeyedList String Policy
deriving DecidableEq

/-- Why a definition is not registered. -/
inductive RegistryError where
  | duplicateEndpoint (name existing : String)
  | notAnEndpoint (typeName : String)
deriving DecidableEq

/-- The text of a registration error. -/
def RegistryError.message : RegistryError → String
  | .duplicateEndpoint name existing =>
    "endpoint name '" ++ name ++ "' is already registered by " ++ existing
  | .notAnEndpoint typeName =>
    typeName ++ " is not an endpoint; mark its impl block with #[endpoint]"

/-- What the name of a called method resolves to. -/
structure ResolvedMethod where
  endpoint : String
  method : String
  declaringType : String
  target : Target
deriving DecidableEq

/-- What the name of an endpoint resolves to. `methodNames` is in ascending order. -/
structure ResolvedEndpoint where
  name : String
  typeName : String
  typePolicy : Policy
  methodNames : List String
deriving DecidableEq

/-- Texts in ascending order of their code points. -/
def sortTexts (texts : List String) : List String :=
  texts.mergeSort fun a b ↦ a ≤ b

/-- Enter the methods that one type declares, each under its name in lower case. -/
def TypeRecord.offer (record : TypeRecord) (methods : KeyedList String OfferedMethod) :
    KeyedList String OfferedMethod :=
  methods.insertAll
    (record.methods.map fun m ↦ (Text.lowerCase m.name, ⟨m.name, record.typeName, m.policy⟩))

namespace TypeDefinition

/-- The methods of a type, inherited ones included. A type overrides what the types it extends
declare, and of two methods of one type the later one counts. -/
def offeredMethods (definition : TypeDefinition) : KeyedList String OfferedMethod :=
  definition.chain.reverse.foldl (fun methods record ↦ record.offer methods) .empty

/-- The policies of the types of the chain by type name, the extended types first. -/
def typePolicies (definition : TypeDefinition) : List (String × Policy) :=
  definition.chain.reverse.map fun record ↦ (record.typeName, record.policy)

/-- The endpoint that a definition registers. -/
def toEndpoint (definition : TypeDefinition) : Endpoint where
  name := definition.own.endpointName
  typeName := definition.own.typeName
  methods := definition.offeredMethods

end TypeDefinition

namespace Registry

/-- The registry without endpoints. -/
def empty : Registry where
  endpoints := .empty
  types := .empty

/-- The endpoint registered under a name. -/
def find? (registry : Registry) (name : String) : Option Endpoint :=
  registry.endpoints.get? (Text.lowerCase name)

/-- The record written when a definition has been registered. -/
def registrationRecord (definition : TypeDefinition) : LogRecord where
  level := .debug
  message := "registered endpoint '" ++ definition.own.endpointName ++ "' (" ++
    definition.own.typeName ++ ") with " ++ toString definition.offeredMethods.size ++ " method(s)"

/-- The registry with one more definition. -/
def add (registry : Registry) (definition : TypeDefinition) : Registry where
  endpoints :=
    registry.endpoints.insert (Text.lowerCase definition.own.endpointName) definition.toEndpoint
  types := registry.types.insertAll definition.typePolicies

/-- Offer a definition to the registry: the answer, and the registry after it. The definition has to
be an endpoint, and its name must not be taken. -/
def enter (registry : Registry) (definition : TypeDefinition) :
    Except RegistryError (List LogRecord) × Registry :=
  if definition.own.isEndpoint then
    match registry.find? definition.own.endpointName with
    | some existing =>
      (.error (.duplicateEndpoint definition.own.endpointName existing.typeName), registry)
    | none => (.ok [registrationRecord definition], registry.add definition)
  else
    (.error (.notAnEndpoint definition.own.typeName), registry)

/-- Offer definitions one after the other, those behind one that fails as well. -/
def enterAll (registry : Registry) (definitions : List TypeDefinition) : Registry :=
  definitions.foldl (fun registry definition ↦ (registry.enter definition).2) registry

/-- Those of a list of definitions that are registered when all are offered in turn. -/
def accepted (registry : Registry) : List TypeDefinition → List TypeDefinition
  | [] => []
  | definition :: rest =>
    match registry.enter definition with
    | (.ok _, extended) => definition :: extended.accepted rest
    | (.error _, same) => same.accepted rest

/-- Register a definition, for one who goes on only if that succeeds. -/
def register (registry : Registry) (definition : TypeDefinition) :
    Except RegistryError (Registry × List LogRecord) :=
  match registry.enter definition with
  | (.ok records, extended) => .ok (extended, records)
  | (.error failure, _) => .error failure

/-- Register definitions one after the other, up to the first that fails. -/
def registerAll (registry : Registry) : List TypeDefinition → Except RegistryError Registry
  | [] => .ok registry
  | definition :: rest =>
    match registry.register definition with
    | .ok (extended, _) => extended.registerAll rest
    | .error failure => .error failure

/-- Find the method that a call names. -/
def resolve (registry : Registry) (endpoint method : String) : Option ResolvedMethod := do
  let entry ← registry.find? endpoint
  let offered ← entry.methods.get? (Text.lowerCase method)
  let typePolicy ← registry.types.get? offered.declaringType
  pure {
    endpoint := entry.name
    method := offered.name
    declaringType := offered.declaringType
    target := ⟨offered.policy, typePolicy⟩ }

/-- Find an endpoint by name. -/
def endpoint (registry : Registry) (name : String) : Option ResolvedEndpoint := do
  let entry ← registry.find? name
  let typePolicy ← registry.types.get? entry.typeName
  pure {
    name := entry.name
    typeName := entry.typeName
    typePolicy := typePolicy
    methodNames := sortTexts (entry.methods.values.map OfferedMethod.name) }

/-- The names of the registered endpoints in ascending order. -/
def endpointNames (registry : Registry) : List String :=
  sortTexts (registry.endpoints.values.map Endpoint.name)

/-- The number of registered endpoints. -/
def size (registry : Registry) : Nat :=
  registry.endpoints.size

end Registry

end EndpointGuard
