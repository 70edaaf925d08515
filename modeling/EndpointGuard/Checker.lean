import EndpointGuard.Caller
import EndpointGuard.Decision
import EndpointGuard.Log
import EndpointGuard.Policy

/-!
# Access checks

The decision about one call. The markers of the method decide when there are any, otherwise those
of its declaring type, and a call without markers at either place is denied. Every check returns a
`Verdict`, which carries beside the outcome the roles that were asked about and the log records, so
that statements can be made about both.
-/

namespace EndpointGuard

/-- What a check looks at: the policy of a method and the policy of the type that declares it. -/
structure Target where
  method : Policy
  declaringType : Policy
deriving DecidableEq

/-- The target of a method about which nothing is said. -/
def Target.unspecified : Target where
  method := .unspecified
  declaringType := .unspecified

/-- The outcome of a check, with the roles asked about in order and the log records written. -/
structure Verdict where
  allowed : Bool
  asked : List String := []
  records : List LogRecord := []

/-- The roles that are asked about when a list is searched for one that is held: all up to the first
that is, or the whole list. -/
def askedRoles (holds : String → Bool) : List String → List String
  | [] => []
  | role :: rest => if holds role then [role] else role :: askedRoles holds rest

/-- Judge a caller by one policy. Denial comes first, then permission for anyone, then the question
whether the caller is known, and last the permissions for known callers. -/
def Policy.judge (policy : Policy) (identity : Identity) (holds : String → Bool) : Verdict :=
  if policy.denyAll then
    { allowed := false }
  else if policy.anonymousAllowed then
    { allowed := true }
  else if identity.isAnonymous then
    { allowed := false
      records := [⟨.debug, "anonymous caller rejected by " ++ policy.display, .decisions⟩] }
  else if policy.permitAll then
    { allowed := true }
  else
    match policy.roles with
    | none => { allowed := false }
    | some roles =>
      let granted := roles.names.any holds
      { allowed := granted
        asked := askedRoles holds roles.names
        records :=
          if granted then []
          else
            [⟨.debug, identity.display ++ " holds none of " ++
              (Marker.rolesAllowed roles.names).display, .decisions⟩] }

/-- Put a record in front of those of a verdict. -/
def Verdict.after (verdict : Verdict) (record : LogRecord) : Verdict :=
  { verdict with records := record :: verdict.records }

/-- Judge a caller by the policy of a type; without markers the caller is denied. -/
def judgeType (policy : Policy) (identity : Identity) (holds : String → Bool) : Verdict :=
  if policy.isSpecified then
    (policy.judge identity holds).after
      ⟨.trace, "resolving access for " ++ identity.display ++ " at type scope: " ++ policy.display,
        .decisions⟩
  else
    { allowed := false
      records := [⟨.trace, "no security marker found for " ++ identity.display ++ ", denying",
        .decisions⟩] }

/-- Judge a caller by the policy of a method if it has markers, else by that of its type. -/
def judgeTarget (target : Target) (identity : Identity) (holds : String → Bool) : Verdict :=
  if target.method.isSpecified then
    (target.method.judge identity holds).after
      ⟨.trace, "resolving access for " ++ identity.display ++ " at method scope: " ++
        target.method.display, .decisions⟩
  else
    judgeType target.declaringType identity holds

/-- How checks are made: with the role prefix by which roles are matched, and in development mode
with a message that tells how to open the endpoint. -/
structure Checker where
  devMode : Bool
  rolePrefix : RolePrefix
deriving DecidableEq

namespace Checker

/-- A checker with the standard role prefix. -/
def standard (devMode : Bool) : Checker where
  devMode := devMode
  rolePrefix := .standard

/-- The message of a denial. -/
def deniedMessage (checker : Checker) : String :=
  if checker.devMode then
    "Access denied to endpoint; to enable endpoint access use one of the following attributes: " ++
      "#[anonymous_allowed], #[permit_all], #[roles_allowed]"
  else
    "Access denied"

/-- The decision that a verdict amounts to. -/
def decision (checker : Checker) (verdict : Verdict) : Decision :=
  if verdict.allowed then .allowed else .denied checker.deniedMessage

/-- Decide about a call of a method. -/
def decide (checker : Checker) (target : Target) (identity : Identity) (holds : String → Bool) :
    Decision × List LogRecord :=
  let verdict := judgeTarget target identity holds
  (checker.decision verdict, verdict.records)

/-- Decide about a type as a whole. -/
def decideType (checker : Checker) (policy : Policy) (identity : Identity)
    (holds : String → Bool) : Decision × List LogRecord :=
  let verdict := judgeType policy identity holds
  (checker.decision verdict, verdict.records)

/-- The role check that this checker makes for a user. -/
def holderOf (checker : Checker) (user : Option User) : RoleHolder :=
  .ofUser? user checker.rolePrefix

/-- Decide about a call made by an optional user. -/
def decideFor (checker : Checker) (target : Target) (user : Option User) :
    Decision × List LogRecord :=
  checker.decide target (.ofUser? user) (checker.holderOf user).holds

/-- Decide about a type as a whole for an optional user. -/
def decideTypeFor (checker : Checker) (policy : Policy) (user : Option User) :
    Decision × List LogRecord :=
  checker.decideType policy (.ofUser? user) (checker.holderOf user).holds

end Checker

end EndpointGuard
