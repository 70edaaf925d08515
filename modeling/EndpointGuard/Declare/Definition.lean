import EndpointGuard.Declare.WrittenMarker
import EndpointGuard.Registry.Definition

/-!
# Written definitions

The function that a declaration writes: it builds the definition of a type step by step. A written
definition is data, its `tokens` are the code, and its `meaning` is what that code builds.
-/

namespace EndpointGuard.Declare

open Source

/-! ## Steps -/

/-- A step in building a definition. -/
inductive Step where
  | endpoint (name : Option (List Token))
  | policy (markers : List WrittenMarker)
  | method (name : String) (markers : List WrittenMarker)
  | extending (parent : List Token)

/-- A written definition: the type it is for and the steps that build it. -/
structure WrittenDefinition where
  generics : Generics
  selfType : List Token
  simpleName : String
  steps : List Step

/-! ## The code -/

/-- A path from the root, its names given. -/
def absolutePath (names : List String) : List Token :=
  names.flatMap fun name ↦ Token.symbol "::" ++ [.ident name]

/-- A path into the crate for access control. -/
def accessPath (names : List String) : List Token :=
  absolutePath ("endpoint_access" :: "http" :: names)

/-- The call of a method. -/
def methodCall (name : String) (arguments : List Token) : List Token :=
  [.punct '.' false, .ident name, .group .paren arguments]

/-- Tokens with commas between them. -/
def withCommas (parts : List (List Token)) : List Token :=
  (parts.intersperse (Token.symbol ",")).flatten

/-- The call that adds a marker to a policy. -/
def WrittenMarker.tokens : WrittenMarker → List Token
  | .denyAll => methodCall "deny_all" []
  | .anonymousAllowed => methodCall "anonymous_allowed" []
  | .permitAll => methodCall "permit_all" []
  | .rolesAllowed roles =>
    methodCall "roles_allowed"
      [.punct '&' false, .group .bracket (withCommas (roles.map WrittenRole.tokens))]

/-- The policy of some markers. -/
def policyTokens (markers : List WrittenMarker) : List Token :=
  accessPath ["auth", "ScopePolicy", "unspecified"] ++ [.group .paren []] ++
    markers.flatMap WrittenMarker.tokens

/-- The trait of types with a definition. -/
def definedTrait : List Token :=
  accessPath ["security", "EndpointType"]

/-- The type of definitions. -/
def definitionType : List Token :=
  accessPath ["security", "TypeDefinition"]

/-- The call that a step is. -/
def Step.tokens : Step → List Token
  | .endpoint (some name) =>
    methodCall "endpoint"
      (absolutePath ["std", "option", "Option", "Some"] ++ [.group .paren name])
  | .endpoint none => methodCall "endpoint" (absolutePath ["std", "option", "Option", "None"])
  | .policy markers => methodCall "policy" (policyTokens markers)
  | .method name markers =>
    methodCall "method" (stringToken name :: (Token.symbol "," ++ policyTokens markers))
  | .extending parent =>
    methodCall "extends"
      (Token.symbol "<" ++ parent ++ .ident "as" :: definedTrait ++ Token.symbol ">" ++
        absolutePath ["definition"] ++ [.group .paren []])

namespace WrittenDefinition

/-- The expression that builds the definition. -/
def expression (written : WrittenDefinition) : List Token :=
  let typeName := absolutePath ["std", "any", "type_name"] ++ Token.symbol "::" ++
    Token.symbol "<" ++ .ident "Self" :: Token.symbol ">" ++ [.group .paren []]
  let arguments := typeName ++ Token.symbol "," ++ stringToken written.simpleName ::
    Token.symbol ","
  definitionType ++ absolutePath ["new"] ++ [.group .paren arguments] ++
    written.steps.flatMap Step.tokens

/-- The block that gives the type its definition. -/
def tokens (written : WrittenDefinition) : List Token :=
  let function := [.ident "fn", .ident "definition", .group .paren []] ++ Token.symbol "->" ++
    definitionType ++ [.group .brace written.expression]
  .ident "impl" :: (written.generics.withoutDefaults ++ definedTrait ++ .ident "for" ::
    written.selfType ++ written.generics.conditions ++ [.group .brace function])

end WrittenDefinition

/-! ## What the code builds -/

/-- What the parts of written code stand for that are not decided here: names and roles stand for
strings, and a type has a full name and a definition. -/
structure Context where
  text : List Token → String
  role : WrittenRole → String
  typeName : List Token → String
  definition : List Token → TypeDefinition

/-- The definition after a step. -/
def Step.meaning (context : Context) (built : TypeDefinition) : Step → TypeDefinition
  | .endpoint name => { built with own := built.own.asEndpoint (name.map context.text) }
  | .policy markers =>
    { built with
      own := { built.own with policy := .ofMarkers (markers.map (·.meaning context.role)) } }
  | .method name markers =>
    { built with
      own := built.own.withMethod name (.ofMarkers (markers.map (·.meaning context.role))) }
  | .extending parent => built.extending (context.definition parent)

/-- The definition that the code builds. -/
def WrittenDefinition.meaning (context : Context) (written : WrittenDefinition) : TypeDefinition :=
  written.steps.foldl (Step.meaning context)
    ⟨{ typeName := context.typeName written.selfType, simpleName := written.simpleName }, []⟩

end EndpointGuard.Declare
