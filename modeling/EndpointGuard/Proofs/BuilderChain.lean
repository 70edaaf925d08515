import EndpointGuard.Declare.Definition

/-!
# What written builder chains denote

`DenotesPolicy` and `DenotesDefinition` read the code of a written definition as the chain of calls
that it is: each call changes what the chain before it built, by its name and its arguments.
`WrittenDefinition.denotes` says that the code of a written definition denotes its `meaning`.
-/

namespace EndpointGuard.Declare

open Source

variable {context : Context} {selfType : List Token}

/-- An expression for a policy: the policy without markers, and calls that add a marker to what they
are made on. -/
inductive DenotesPolicy (context : Context) : List Token → Policy → Prop where
  | unspecified :
      DenotesPolicy context
        (accessPath ["auth", "ScopePolicy", "unspecified"] ++ [.group .paren []]) .unspecified
  | denyAll {code : List Token} {policy : Policy} : DenotesPolicy context code policy →
      DenotesPolicy context (code ++ methodCall "deny_all" []) { policy with denyAll := true }
  | anonymousAllowed {code : List Token} {policy : Policy} : DenotesPolicy context code policy →
      DenotesPolicy context (code ++ methodCall "anonymous_allowed" [])
        { policy with anonymousAllowed := true }
  | permitAll {code : List Token} {policy : Policy} : DenotesPolicy context code policy →
      DenotesPolicy context (code ++ methodCall "permit_all" []) { policy with permitAll := true }
  | rolesAllowed {code : List Token} {policy : Policy} (roles : List WrittenRole) :
      DenotesPolicy context code policy →
      DenotesPolicy context
        (code ++ methodCall "roles_allowed"
          [.punct '&' false, .group .bracket (withCommas (roles.map WrittenRole.tokens))])
        (policy.allowRoles (roles.map context.role))

/-- An expression for the definition of a type: the one that only has the names of the type, and
calls that set or add a part of what they are made on. -/
inductive DenotesDefinition (context : Context) (selfType : List Token) :
    List Token → TypeDefinition → Prop where
  | new (simpleName : String) :
      DenotesDefinition context selfType
        (definitionType ++ absolutePath ["new"] ++ [.group .paren
          (absolutePath ["std", "any", "type_name"] ++ Token.symbol "::" ++ Token.symbol "<" ++
            .ident "Self" :: Token.symbol ">" ++ [.group .paren []] ++ Token.symbol "," ++
            stringToken simpleName :: Token.symbol ",")])
        ⟨{ typeName := context.typeName selfType, simpleName := simpleName }, []⟩
  | named {code : List Token} {built : TypeDefinition} (name : List Token) :
      DenotesDefinition context selfType code built →
      DenotesDefinition context selfType
        (code ++ methodCall "endpoint"
          (absolutePath ["std", "option", "Option", "Some"] ++ [.group .paren name]))
        { built with own := built.own.asEndpoint (some (context.text name)) }
  | unnamed {code : List Token} {built : TypeDefinition} :
      DenotesDefinition context selfType code built →
      DenotesDefinition context selfType
        (code ++ methodCall "endpoint" (absolutePath ["std", "option", "Option", "None"]))
        { built with own := built.own.asEndpoint none }
  | policy {code policyCode : List Token} {built : TypeDefinition} {policy : Policy} :
      DenotesDefinition context selfType code built → DenotesPolicy context policyCode policy →
      DenotesDefinition context selfType (code ++ methodCall "policy" policyCode)
        { built with own := { built.own with policy := policy } }
  | method {code policyCode : List Token} {built : TypeDefinition} {policy : Policy}
      (name : String) :
      DenotesDefinition context selfType code built → DenotesPolicy context policyCode policy →
      DenotesDefinition context selfType
        (code ++ methodCall "method" (stringToken name :: (Token.symbol "," ++ policyCode)))
        { built with own := built.own.withMethod name policy }
  | extending {code : List Token} {built : TypeDefinition} (parent : List Token) :
      DenotesDefinition context selfType code built →
      DenotesDefinition context selfType
        (code ++ methodCall "extends"
          (Token.symbol "<" ++ parent ++ .ident "as" :: definedTrait ++ Token.symbol ">" ++
            absolutePath ["definition"] ++ [.group .paren []]))
        (built.extending (context.definition parent))

/-- The call of a marker adds the marker to the policy that the code before it denotes. -/
theorem DenotesPolicy.add_marker {code : List Token} {policy : Policy}
    (h : DenotesPolicy context code policy) (marker : WrittenMarker) :
    DenotesPolicy context (code ++ marker.tokens)
      (policy.withMarker (marker.meaning context.role)) := by
  cases marker with
  | denyAll => exact h.denyAll
  | anonymousAllowed => exact h.anonymousAllowed
  | permitAll => exact h.permitAll
  | rolesAllowed roles => exact h.rolesAllowed roles

/-- The calls of markers add them in order. -/
theorem DenotesPolicy.add_markers {code : List Token} {policy : Policy}
    (h : DenotesPolicy context code policy) (markers : List WrittenMarker) :
    DenotesPolicy context (code ++ markers.flatMap WrittenMarker.tokens)
      ((markers.map (·.meaning context.role)).foldl Policy.withMarker policy) := by
  induction markers generalizing code policy with
  | nil => simpa using h
  | cons marker rest ih =>
      rw [List.flatMap_cons, ← List.append_assoc, List.map_cons, List.foldl_cons]
      exact ih (h.add_marker marker)

/-- The code of a policy denotes the policy of its markers. -/
theorem denotes_policy_tokens (markers : List WrittenMarker) :
    DenotesPolicy context (policyTokens markers)
      (.ofMarkers (markers.map (·.meaning context.role))) :=
  DenotesPolicy.unspecified.add_markers markers

/-- The call of a step changes what the code before it denotes as the step says. -/
theorem DenotesDefinition.add_step {code : List Token} {built : TypeDefinition}
    (h : DenotesDefinition context selfType code built) (step : Step) :
    DenotesDefinition context selfType (code ++ step.tokens) (step.meaning context built) := by
  cases step with
  | endpoint name =>
      cases name with
      | none => exact h.unnamed
      | some name => exact h.named name
  | policy markers => exact h.policy (denotes_policy_tokens markers)
  | method name markers => exact h.method name (denotes_policy_tokens markers)
  | extending parent => exact h.extending parent

/-- The calls of steps change it in order. -/
theorem DenotesDefinition.add_steps {code : List Token} {built : TypeDefinition}
    (h : DenotesDefinition context selfType code built) (steps : List Step) :
    DenotesDefinition context selfType (code ++ steps.flatMap Step.tokens)
      (steps.foldl (Step.meaning context) built) := by
  induction steps generalizing code built with
  | nil => simpa using h
  | cons step rest ih =>
      rw [List.flatMap_cons, ← List.append_assoc, List.foldl_cons]
      exact ih (h.add_step step)

/-- The code of a written definition denotes its meaning. -/
theorem WrittenDefinition.denotes (context : Context) (written : WrittenDefinition) :
    DenotesDefinition context written.selfType written.expression (written.meaning context) :=
  (DenotesDefinition.new written.simpleName).add_steps written.steps

end EndpointGuard.Declare
