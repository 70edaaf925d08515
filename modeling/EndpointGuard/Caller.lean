import EndpointGuard.NameSet
import EndpointGuard.Text.Quoted

/-!
# Callers

Users with the roles and authorities granted to them, the identity that a decision sees, and the
rule by which a role name is matched. `RoleHolder.holds` is that rule: a role counts when it was
granted as a role without the prefix or as an authority with it.
-/

namespace EndpointGuard

/-- A user with granted roles and authorities. -/
structure User where
  username : String
  roles : NameSet := .empty
  authorities : NameSet := .empty
  isAnonymous : Bool := false
deriving DecidableEq

namespace User

/-- A user by name, without grants. -/
def named (username : String) : User where
  username := username

/-- The user that stands for a caller who did not authenticate. -/
def anonymous : User where
  username := "anonymousUser"
  isAnonymous := true

/-- Grant roles to a user. -/
def grantRoles (user : User) (roles : List String) : User :=
  { user with roles := user.roles.insertAll roles }

/-- Grant authorities to a user. -/
def grantAuthorities (user : User) (authorities : List String) : User :=
  { user with authorities := user.authorities.insertAll authorities }

/-- The role was granted under exactly this name. -/
def hasRole (user : User) (role : String) : Bool :=
  user.roles.contains role

/-- The authority was granted under exactly this name. -/
def hasAuthority (user : User) (authority : String) : Bool :=
  user.authorities.contains authority

/-- The text of a user. -/
def display (user : User) : String :=
  "User \x7b username: " ++ user.username ++ ", roles: " ++ Text.quoteList user.roles.names ++
    ", authorities: " ++ Text.quoteList user.authorities.names ++ " \x7d"

end User

/-- The caller as decisions see it: an authenticated principal by name, or nobody known. -/
inductive Identity where
  | authenticated (name : String)
  | anonymous
deriving DecidableEq

namespace Identity

/-- The identity of an optional user; no user and the anonymous user are nobody known. -/
def ofUser? : Option User → Identity
  | some user => if user.isAnonymous then .anonymous else .authenticated user.username
  | none => .anonymous

/-- The caller is nobody known. -/
def isAnonymous : Identity → Bool
  | .authenticated _ => false
  | .anonymous => true

/-- The name of an authenticated principal. -/
def principal? : Identity → Option String
  | .authenticated name => some name
  | .anonymous => none

/-- The text of an identity. -/
def display : Identity → String
  | .authenticated name => name
  | .anonymous => "<anonymous>"

end Identity

/-- A text put in front of role names, or none. An empty text is no prefix. -/
structure RolePrefix where
  text? : Option String
  text_ne : text? ≠ some "" := by decide
deriving DecidableEq

namespace RolePrefix

/-- The prefix given by an optional text. -/
def ofText? (given : Option String) : RolePrefix where
  text? := given.filter (· ≠ "")
  text_ne := by simp [Option.filter_eq_some_iff]

/-- The prefix of a fresh configuration. -/
def standard : RolePrefix where
  text? := some "ROLE_"

end RolePrefix

/-- The rest of a text after a beginning it has. -/
def stripStart? (start text : String) : Option String :=
  (start.toList.isPrefixOf? text.toList).map String.ofList

/-- The grants of a caller as role checks see them. `user` is absent for a caller who is nobody
known, and such a caller holds no role. -/
structure RoleHolder where
  user : Option User
  rolePrefix : RolePrefix
deriving DecidableEq

namespace RoleHolder

/-- The grants of an optional user under a prefix; the anonymous user counts as no user. -/
def ofUser? (user : Option User) (rolePrefix : RolePrefix) : RoleHolder where
  user := user.filter (!·.isAnonymous)
  rolePrefix := rolePrefix

/-- The caller holds the role. With a prefix, a role counts as granted when it is a role by its bare
name or an authority by its prefixed name; without one, both are looked up under the name asked. -/
def holds (holder : RoleHolder) (role : String) : Bool :=
  match holder.user with
  | none => false
  | some user =>
    match holder.rolePrefix.text? with
    | none => user.hasRole role || user.hasAuthority role
    | some start =>
      match stripStart? start role with
      | some bare => user.hasRole bare || user.hasAuthority role
      | none => user.hasRole role || user.hasAuthority (start ++ role)

end RoleHolder

end EndpointGuard
