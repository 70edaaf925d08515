/-!
# Rejections

Why a declaration of an endpoint type is rejected, and with which words. What the grammar of the
language does not accept has no words here.
-/

namespace EndpointGuard.Declare

/-- The kinds of declared types: an `endpoint` can be called, and an `exposed` type only contributes
its methods to the endpoints that extend it. -/
inductive Kind where
  | endpoint
  | exposed
deriving DecidableEq

/-- The name of the attribute that declares a type of this kind. -/
def Kind.attributeName : Kind → String
  | .endpoint => "endpoint"
  | .exposed => "endpoint_exposed"

/-- Why a declaration is rejected. -/
inductive Rejection where
  | malformed
  | nameTwice
  | parentTwice
  | unknownKey
  | traitBlock (kind : Kind)
  | exposedName
  | roleForm
  | notCallable
  | unnamedType
deriving DecidableEq

/-- The words for a rejection, unless the grammar itself rejects the text. -/
def Rejection.message? : Rejection → Option String
  | .malformed => none
  | .nameTwice => "endpoint name given twice"
  | .parentTwice => "only one parent type is supported"
  | .unknownKey => "expected `name = \"...\"` or `extends = ParentType`"
  | .traitBlock kind =>
    "#[" ++ kind.attributeName ++ "] must be placed on an inherent impl block, not a trait impl"
  | .exposedName => "#[endpoint_exposed] types are not callable and take no name"
  | .roleForm => "expected string literal like \"ADMIN\" or a constant like ROLE_ADMIN"
  | .notCallable => "security attributes only apply to `pub` endpoint methods taking `self`"
  | .unnamedType => "endpoint macros only support named types, e.g. `impl OrderEndpoint`"

end EndpointGuard.Declare
