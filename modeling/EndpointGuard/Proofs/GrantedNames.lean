import EndpointGuard.Proofs.FirstMentions
import EndpointGuard.Proofs.RoleQuestions

/-!
# Granted names and allowed roles

The roles and the authorities of a user and the roles of a policy are lists that grow by calls, each
of which adds several names. Read `names_kept_by_first_mention` first: over any sequence of calls
each list keeps the first mentions of all that was added to it, so that the calls may be split and
repeated.
-/

namespace EndpointGuard

/-- What is granted to a user. -/
inductive GrantKind where
  | role
  | authority
deriving DecidableEq

/-- A call that grants names of one kind to a user. -/
structure Grant where
  kind : GrantKind
  names : List String

/-- The names that a call adds to those of a kind. -/
def Grant.adds (kind : GrantKind) (call : Grant) : List String :=
  if call.kind = kind then call.names else []

namespace User

/-- The names of a kind that were granted to a user. -/
def granted (user : User) : GrantKind → NameSet
  | .role => user.roles
  | .authority => user.authorities

/-- The user has a name of a kind. -/
def has (user : User) : GrantKind → String → Bool
  | .role => user.hasRole
  | .authority => user.hasAuthority

/-- The user after a call. -/
def grant (user : User) (call : Grant) : User :=
  match call.kind with
  | .role => user.grantRoles call.names
  | .authority => user.grantAuthorities call.names

/-- The user after a sequence of calls. -/
def grantAll (user : User) (calls : List Grant) : User :=
  calls.foldl grant user

/-- After a sequence of calls, the user has of each kind the first mentions of the names that it had
and of those that were added, exactly these are found, and nothing else changes. -/
structure KeepsFirst (user : User) (calls : List Grant) : Prop where
  first_mentions : ∀ kind,
    FirstMentions ((user.granted kind).names ++ calls.flatMap (Grant.adds kind))
      ((user.grantAll calls).granted kind).names
  has_iff : ∀ kind name, (user.grantAll calls).has kind name = true ↔
    user.has kind name = true ∨ ∃ call ∈ calls, call.kind = kind ∧ name ∈ call.names
  username_eq : (user.grantAll calls).username = user.username
  is_anonymous_eq : (user.grantAll calls).isAnonymous = user.isAnonymous

end User

namespace Policy

/-- The policy with a sequence of markers added. -/
def withMarkers (policy : Policy) (markers : List Marker) : Policy :=
  markers.foldl withMarker policy

/-- With a sequence of markers added, the policy allows the first mentions of the roles that it
allowed and of those that the markers name. It allows roles as soon as a marker allows any or
none. -/
structure KeepsFirst (policy : Policy) (markers : List Marker) : Prop where
  roles_eq_none_iff : (policy.withMarkers markers).roles = none ↔
    policy.roles = none ∧ ∀ roles, .rolesAllowed roles ∉ markers
  first_mentions : ∀ kept, (policy.withMarkers markers).roles = some kept →
    FirstMentions ((policy.roles.getD .empty).names ++ markers.flatMap Marker.roles) kept.names

end Policy

/-- In any sequence, a call may be made in these parts. -/
def MadeOf {σ κ : Type} (run : List κ → σ) (call : κ) (parts : List κ) : Prop :=
  ∀ before after, run (before ++ call :: after) = run (before ++ (parts ++ after))

/-- In any sequence, a call may be made again. -/
def Repeatable {σ κ : Type} (run : List κ → σ) (call : κ) : Prop :=
  ∀ before between after,
    run (before ++ call :: (between ++ call :: after)) = run (before ++ call :: (between ++ after))

section Runs

variable {σ κ : Type} {step : σ → κ → σ} {state : σ} {call : κ} {parts : List κ}

/-- A call may be made in parts if the steps of the parts are its step. -/
theorem made_of_foldl (h : ∀ state, step state call = parts.foldl step state) :
    MadeOf (fun calls ↦ calls.foldl step state) call parts := by
  intro before after
  simp only [List.foldl_append, List.foldl_cons]
  rw [h]

/-- A call may be made again if its step changes nothing once it was made. -/
theorem repeatable_foldl
    (h : ∀ before between, step ((before ++ call :: between).foldl step state) call =
      (before ++ call :: between).foldl step state) :
    Repeatable (fun calls ↦ calls.foldl step state) call := by
  intro before between after
  have hsame := h before between
  simp only [List.foldl_append, List.foldl_cons] at hsame ⊢
  rw [hsame]

end Runs

/-! ## Users -/

namespace User

variable (user : User)

/-- A call adds its names to those of its kind. -/
theorem granted_grant (kind : GrantKind) (call : Grant) :
    (user.grant call).granted kind = (user.granted kind).insertAll (call.adds kind) := by
  obtain ⟨own, names⟩ := call
  cases own <;> cases kind <;> rfl

/-- A name is found exactly if it was granted. -/
theorem has_iff (kind : GrantKind) (name : String) :
    user.has kind name = true ↔ name ∈ (user.granted kind).names := by
  cases kind <;> simp [has, hasRole, hasAuthority, NameSet.contains, granted]

/-- A call of which all names were granted before changes nothing. -/
theorem grant_eq_self (call : Grant)
    (h : ∀ name ∈ call.names, name ∈ (user.granted call.kind).names) : user.grant call = user := by
  obtain ⟨kind, names⟩ := call
  rw [← NameSet.insert_all_eq_self_iff] at h
  cases kind with
  | role => simpa [grant, grantRoles, granted] using congrArg ({ user with roles := · }) h
  | authority =>
      simpa [grant, grantAuthorities, granted] using congrArg ({ user with authorities := · }) h

/-- A call may be made in several of its kind that together have its names. -/
theorem grant_flatten (kind : GrantKind) (parts : List (List String)) :
    user.grant ⟨kind, parts.flatten⟩ = user.grantAll (parts.map (Grant.mk kind)) := by
  induction parts generalizing user with
  | nil => cases kind <;> rfl
  | cons names rest ih =>
      have hsplit : user.grant ⟨kind, names ++ rest.flatten⟩ =
          (user.grant ⟨kind, names⟩).grant ⟨kind, rest.flatten⟩ := by
        cases kind <;> simp [grant, grantRoles, grantAuthorities, NameSet.insert_all_append]
      rw [List.flatten_cons, hsplit, ih]
      rfl

/-- Calls leave the user's name and whether it is anonymous as they are. -/
theorem grant_all_others (calls : List Grant) :
    (user.grantAll calls).username = user.username ∧
      (user.grantAll calls).isAnonymous = user.isAnonymous := by
  induction calls generalizing user with
  | nil => exact ⟨rfl, rfl⟩
  | cons call rest ih =>
      obtain ⟨hname, hanonymous⟩ := ih (user.grant call)
      have hstep : (user.grant call).username = user.username ∧
          (user.grant call).isAnonymous = user.isAnonymous := by
        unfold grant
        split <;> exact ⟨rfl, rfl⟩
      exact ⟨hname.trans hstep.1, hanonymous.trans hstep.2⟩

/-- A user keeps the first mentions of what is granted to it. -/
theorem keeps_first (calls : List Grant) : user.KeepsFirst calls := by
  have hfirst : ∀ kind, FirstMentions
      ((user.granted kind).names ++ calls.flatMap (Grant.adds kind))
      ((user.grantAll calls).granted kind).names := by
    intro kind
    exact FirstMentions.run (fun user ↦ user.granted kind)
      (fun user call ↦ user.granted_grant kind call) user calls
  obtain ⟨hname, hanonymous⟩ := user.grant_all_others calls
  refine ⟨hfirst, fun kind name ↦ ?_, hname, hanonymous⟩
  rw [has_iff, has_iff, (hfirst kind).mem_iff, List.mem_append, List.mem_flatMap]
  refine or_congr_right (exists_congr fun call ↦ and_congr_right fun _ ↦ ?_)
  by_cases hkind : call.kind = kind <;> simp [Grant.adds, hkind]

/-- A call may be made again. -/
theorem repeatable (call : Grant) : Repeatable user.grantAll call := by
  refine repeatable_foldl fun before between ↦ grant_eq_self _ call fun name hname ↦ ?_
  have hfirst := (user.keeps_first (before ++ call :: between)).first_mentions call.kind
  refine (hfirst.mem_iff name).mpr (List.mem_append_right _ (List.mem_flatMap.mpr ⟨call, ?_, ?_⟩))
  · exact List.mem_append_right _ List.mem_cons_self
  · rw [Grant.adds, if_pos rfl]
    exact hname

end User

/-! ## Policies -/

namespace Policy

variable (policy : Policy)

/-- A policy keeps the first mentions of the roles that are allowed. -/
theorem keeps_first (markers : List Marker) : policy.KeepsFirst markers where
  roles_eq_none_iff := roles_collected_eq_none_iff policy markers
  first_mentions kept hkept := by
    have hfirst := FirstMentions.run (fun policy : Policy ↦ policy.roles.getD .empty)
      roles_with_marker policy markers
    rw [← withMarkers, hkept, Option.getD_some] at hfirst
    exact hfirst

/-- A marker may be given in several that together name its roles. -/
theorem with_marker_flatten (first : List String) (rest : List (List String)) :
    policy.withMarker (.rolesAllowed (first ++ rest.flatten)) =
      policy.withMarkers (.rolesAllowed first :: rest.map .rolesAllowed) := by
  induction rest generalizing policy first with
  | nil =>
      rw [List.flatten_nil, List.append_nil]
      rfl
  | cons names rest ih =>
      have hsplit : policy.withMarker (.rolesAllowed (first ++ (names ++ rest.flatten))) =
          (policy.withMarker (.rolesAllowed first)).withMarker
            (.rolesAllowed (names ++ rest.flatten)) := by
        simp [withMarker, allowRoles, NameSet.insert_all_append]
      rw [List.flatten_cons, hsplit, ih]
      rfl

/-- A marker may be given again. -/
theorem repeatable (roles : List String) : Repeatable policy.withMarkers (.rolesAllowed roles) := by
  refine repeatable_foldl fun before between ↦ (allow_roles_eq_self_iff _ roles).mpr ?_
  have hkeeps := policy.keeps_first (before ++ .rolesAllowed roles :: between)
  have hgiven : .rolesAllowed roles ∈ before ++ .rolesAllowed roles :: between :=
    List.mem_append_right _ List.mem_cons_self
  cases hkept : (policy.withMarkers (before ++ .rolesAllowed roles :: between)).roles with
  | none => exact absurd hgiven ((hkeeps.roles_eq_none_iff.mp hkept).2 roles)
  | some kept =>
      refine ⟨kept, hkept, fun role hrole ↦ ?_⟩
      refine ((hkeeps.first_mentions kept hkept).mem_iff role).mpr (List.mem_append_right _ ?_)
      exact List.mem_flatMap.mpr ⟨_, hgiven, hrole⟩

end Policy

/-! ## All lists -/

/-- Over any sequence of calls that grant roles and authorities to a user, and over any sequence of
markers that are added to a policy, each list keeps the first mentions of all that was added: every
name once, in the order in which the names first came up. A call may be made in parts that together
have its names, and it may be made again. -/
theorem names_kept_by_first_mention :
    (∀ (user : User) (calls : List Grant), user.KeepsFirst calls) ∧
    (∀ (user : User) (kind : GrantKind) (parts : List (List String)),
      MadeOf user.grantAll ⟨kind, parts.flatten⟩ (parts.map (Grant.mk kind))) ∧
    (∀ (user : User) (call : Grant), Repeatable user.grantAll call) ∧
    (∀ (policy : Policy) (markers : List Marker), policy.KeepsFirst markers) ∧
    (∀ (policy : Policy) (first : List String) (rest : List (List String)),
      MadeOf policy.withMarkers (.rolesAllowed (first ++ rest.flatten))
        (.rolesAllowed first :: rest.map .rolesAllowed)) ∧
    ∀ (policy : Policy) (roles : List String),
      Repeatable policy.withMarkers (.rolesAllowed roles) :=
  ⟨User.keeps_first, fun _ kind parts ↦ made_of_foldl fun user ↦ user.grant_flatten kind parts,
    User.repeatable, Policy.keeps_first,
    fun _ first rest ↦ made_of_foldl fun policy ↦ policy.with_marker_flatten first rest,
    Policy.repeatable⟩

/-- What a clerk is granted in turn, names twice in one call and again in a later one. -/
def clerkGrants : List Grant :=
  [⟨.role, ["CLERK", "ADMIN", "CLERK"]⟩, ⟨.authority, ["orders:write"]⟩,
    ⟨.role, ["ADMIN", "AUDITOR"]⟩]

/-- A desk that is open to clerks by each of two markers. -/
def deskMarkers : List Marker :=
  [.permitAll, .rolesAllowed ["CLERK", "ADMIN"], .rolesAllowed ["CLERK", "AUDITOR"]]

/-- The roles of the clerk stand in the order of their first mention. They are the same if the first
call is made in two and the second one again at the end. The desk allows the same roles, each
once. -/
theorem clerk_names_kept :
    ((User.named "ada").grantAll clerkGrants).roles.names = ["CLERK", "ADMIN", "AUDITOR"] ∧
      ((User.named "ada").grantAll clerkGrants).hasRole "AUDITOR" = true ∧
      (User.named "ada").grantAll ([⟨.role, ["CLERK"]⟩, ⟨.role, ["ADMIN", "CLERK"]⟩] ++
        clerkGrants.tail) = (User.named "ada").grantAll clerkGrants ∧
      (User.named "ada").grantAll (clerkGrants ++ [⟨.authority, ["orders:write"]⟩]) =
        (User.named "ada").grantAll clerkGrants ∧
      ∃ kept, (Policy.unspecified.withMarkers deskMarkers).roles = some kept ∧
        kept.names = ["CLERK", "ADMIN", "AUDITOR"] := by
  obtain ⟨huser, hparts, hagain, hpolicy, _, _⟩ := names_kept_by_first_mention
  have hroles := ((huser (.named "ada") clerkGrants).first_mentions .role).eq_erase_dups
  refine ⟨hroles, ?_, ?_, ?_, _, rfl, ?_⟩
  · refine ((huser (.named "ada") clerkGrants).has_iff .role "AUDITOR").mpr (Or.inr ?_)
    exact ⟨⟨.role, ["ADMIN", "AUDITOR"]⟩, by simp [clerkGrants], rfl, by simp⟩
  · exact (hparts (.named "ada") .role [["CLERK"], ["ADMIN", "CLERK"]] [] clerkGrants.tail).symm
  · exact hagain (.named "ada") ⟨.authority, ["orders:write"]⟩ [clerkGrants.head (by decide)]
      [⟨.role, ["ADMIN", "AUDITOR"]⟩] []
  · exact ((hpolicy .unspecified deskMarkers).first_mentions _ rfl).eq_erase_dups

end EndpointGuard
