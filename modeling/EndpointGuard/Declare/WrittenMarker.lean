import EndpointGuard.Declare.Rejection
import EndpointGuard.Policy
import EndpointGuard.Source.Grammar.Whole

/-!
# Markers as they are written

The attributes that say who may call. `takeMarkers` parts the attributes of a block or method into
markers and the others, each in the order in which they stood.
-/

namespace EndpointGuard.Declare

open Source

/-- A role as it is written: a string, or a constant that stands for one. -/
inductive WrittenRole where
  | text (tokens : List Token)
  | constant (tokens : List Token)

/-- A role as it is written. -/
def WrittenRole.tokens : WrittenRole → List Token
  | .text tokens => tokens
  | .constant tokens => tokens

/-- A marker as it is written. -/
inductive WrittenMarker where
  | denyAll
  | anonymousAllowed
  | permitAll
  | rolesAllowed (roles : List WrittenRole)

namespace WrittenMarker

/-- The names of the attributes that are markers. -/
def attributeNames : List String :=
  ["deny_all", "anonymous_allowed", "permit_all", "roles_allowed"]

/-- The marker that is written, given the string that each role stands for. -/
def meaning (value : WrittenRole → String) : WrittenMarker → Marker
  | .denyAll => .denyAll
  | .anonymousAllowed => .anonymousAllowed
  | .permitAll => .permitAll
  | .rolesAllowed roles => .rolesAllowed (roles.map value)

end WrittenMarker

/-- The attribute is a marker. -/
def isMarker (attr : Attribute) : Bool :=
  match attr.name? with
  | some name => name ∈ WrittenMarker.attributeNames
  | none => false

/-- The role that an expression is, if it is a string or a path. -/
def roleOf (expression : Expression) : Except Rejection WrittenRole :=
  match expression.kind with
  | .stringLiteral => .ok (.text expression.tokens)
  | .path => .ok (.constant expression.tokens)
  | _ => .error .roleForm

/-- The expressions with commas between them that the tokens are. -/
def expressionsOf? (tokens : List Token) : Option (List Expression) :=
  (Grammar.read (fun g ↦ Parser.items atEnd (g.expression true)) tokens).map fun found ↦
    found.map Prod.fst

/-- The roles that the arguments of an attribute name. -/
def rolesOf (input : AttributeInput) : Except Rejection (List WrittenRole) :=
  match input with
  | .arguments _ tokens =>
    match expressionsOf? tokens with
    | some expressions => expressions.mapM roleOf
    | none => .error .malformed
  | _ => .error .malformed

/-- The marker that an attribute with the name of a marker is. Only the one for roles has
arguments. -/
def markerOf (attr : Attribute) : Except Rejection WrittenMarker :=
  if attr.name? = some "roles_allowed" then
    (rolesOf attr.input).map .rolesAllowed
  else
    match attr.input with
    | .nothing =>
      if attr.name? = some "deny_all" then .ok .denyAll
      else if attr.name? = some "anonymous_allowed" then .ok .anonymousAllowed
      else .ok .permitAll
    | _ => .error .malformed

/-- The markers among attributes, and the other attributes. -/
def takeMarkers : List Attribute → Except Rejection (List WrittenMarker × List Attribute)
  | [] => .ok ([], [])
  | attr :: rest => do
    if isMarker attr then
      let marker ← markerOf attr
      let (markers, kept) ← takeMarkers rest
      return (marker :: markers, kept)
    else
      let (markers, kept) ← takeMarkers rest
      return (markers, attr :: kept)

end EndpointGuard.Declare
