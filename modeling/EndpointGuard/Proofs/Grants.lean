import EndpointGuard.Proofs.RoleRule

/-!
# What grants change

A decision about a user rests on what was granted to it through three layers: the names that are
kept, the rule by which roles are matched, and the policy that is judged. Read `grants_keep_access`
first: a caller who is let in is still let in after further grants, and for a caller who is nobody
known grants change nothing. `User.Extends` says what a grant leaves as it was, and each layer has
one lemma that carries it on.
-/

namespace EndpointGuard

/-- The second user is the first with grants added, if any. -/
structure User.Extends (user more : User) : Prop where
  username_eq : more.username = user.username
  is_anonymous_eq : more.isAnonymous = user.isAnonymous
  roles_subset : user.roles.names ⊆ more.roles.names
  authorities_subset : user.authorities.names ⊆ more.authorities.names

/-- A user with roles granted, and then authorities. -/
def User.withGrants (user : User) (roles authorities : List String) : User :=
  (user.grantRoles roles).grantAuthorities authorities

/-- The policy that decides about a call: that of the method, or that of its type if the method has
no markers. -/
def Target.deciding (target : Target) : Policy :=
  if target.method.isSpecified then target.method else target.declaringType

/-- The decision about a call of an optional user whose roles are matched under a prefix. -/
def Checker.decisionUnder (checker : Checker) (given : Option String) (target : Target)
    (user : Option User) : Decision :=
  (checker.decide target (.ofUser? user) (RoleHolder.ofUser? user (.ofText? given)).holds).1

/-! ## Users -/

/-- Names that are added take none away. -/
theorem NameSet.names_subset_insert_all (set : NameSet) (added : List String) :
    set.names ⊆ (set.insertAll added).names :=
  fun _ hname ↦ (set.mem_names_insert_all added _).mpr (Or.inl hname)

/-- Grants are only added. -/
theorem User.extends_with_grants (user : User) (roles authorities : List String) :
    user.Extends (user.withGrants roles authorities) where
  username_eq := rfl
  is_anonymous_eq := rfl
  roles_subset := user.roles.names_subset_insert_all roles
  authorities_subset := user.authorities.names_subset_insert_all authorities

/-- With further grants a user keeps its identity. -/
theorem User.Extends.identity_eq {user more : User} (h : user.Extends more) :
    Identity.ofUser? (some more) = .ofUser? (some user) := by
  simp only [Identity.ofUser?, h.username_eq, h.is_anonymous_eq]

/-! ## Roles -/

/-- What counts for a role counts for it after further grants. -/
theorem Granted.extend {given : Option String} {user more : User} {role : String}
    (hextends : user.Extends more) (h : Granted given user role) : Granted given more role := by
  have hfound : ∀ {bare authority : String},
      bare ∈ user.roles.names ∨ authority ∈ user.authorities.names →
      bare ∈ more.roles.names ∨ authority ∈ more.authorities.names :=
    fun h ↦ h.imp (fun hrole ↦ hextends.roles_subset hrole)
      (fun hauthority ↦ hextends.authorities_subset hauthority)
  cases h with
  | stripped hgiven hne hrole h => exact .stripped hgiven hne hrole (hfound h)
  | lengthened hgiven hne hrole h => exact .lengthened hgiven hne hrole (hfound h)
  | plain hgiven h => exact .plain hgiven (hfound h)

/-- A role that is held is held after further grants. -/
theorem User.Extends.holds {user more : User} (hextends : user.Extends more)
    (given : Option String) (role : String)
    (h : (RoleHolder.ofUser? (some user) (.ofText? given)).holds role = true) :
    (RoleHolder.ofUser? (some more) (.ofText? given)).holds role = true := by
  rw [holds_iff] at h ⊢
  obtain ⟨known, hknown, hanonymous, hgranted⟩ := h
  obtain rfl := Option.some.inj hknown
  exact ⟨more, rfl, hextends.is_anonymous_eq.trans hanonymous, hgranted.extend hextends⟩

/-! ## Policies -/

/-- A policy that grants a role grants one to whoever holds more. -/
theorem Policy.grants_mono {policy : Policy} {holds more : String → Bool}
    (hmore : ∀ role, holds role = true → more role = true) (h : policy.grants holds = true) :
    policy.grants more = true := by
  unfold Policy.grants at h ⊢
  cases hroles : policy.roles with
  | none => simp [hroles] at h
  | some roles =>
      simp only [hroles, List.any_eq_true] at h ⊢
      obtain ⟨role, hmem, hheld⟩ := h
      exact ⟨role, hmem, hmore role hheld⟩

/-- A policy that lets a caller in lets it in when it holds more. -/
theorem Policy.judge_mono {policy : Policy} {identity : Identity} {holds more : String → Bool}
    (hmore : ∀ role, holds role = true → more role = true)
    (h : (policy.judge identity holds).allowed = true) :
    (policy.judge identity more).allowed = true := by
  rw [judge_allowed_iff] at h ⊢
  obtain ⟨hdeny, hopen | ⟨hknown, hpermit | hgrants⟩⟩ := h
  · exact ⟨hdeny, Or.inl hopen⟩
  · exact ⟨hdeny, Or.inr ⟨hknown, Or.inl hpermit⟩⟩
  · exact ⟨hdeny, Or.inr ⟨hknown, Or.inr (Policy.grants_mono hmore hgrants)⟩⟩

/-- A policy lets a caller who is nobody known in exactly when it is open to anyone. -/
theorem judge_nobody_iff (policy : Policy) (holds : String → Bool) :
    (policy.judge .anonymous holds).allowed = true ↔
      policy.anonymousAllowed = true ∧ ¬ policy.denyAll = true := by
  rw [judge_allowed_iff]
  simp [and_comm]

/-- A call is judged by the policy that decides about it. -/
theorem judge_target_deciding (target : Target) (identity : Identity) (holds : String → Bool) :
    (judgeTarget target identity holds).allowed =
      (target.deciding.judge identity holds).allowed := by
  unfold judgeTarget judgeType Target.deciding
  cases target.method.isSpecified with
  | true => rfl
  | false =>
      cases htype : target.declaringType.isSpecified with
      | true => rfl
      | false =>
          -- Without a marker no test of the chain lets anyone in.
          have hclosed : ¬ (target.declaringType.judge identity holds).allowed = true := by
            simp only [Policy.isSpecified, Bool.or_eq_false_iff, Option.isSome_eq_false_iff,
              Option.isNone_iff_eq_none] at htype
            obtain ⟨⟨⟨_, hopen⟩, hpermit⟩, hroles⟩ := htype
            simp [judge_allowed_iff, Policy.grants, hopen, hpermit, hroles]
          exact (Bool.eq_false_iff.mpr hclosed).symm

/-! ## Decisions -/

namespace Checker

/-- A call is allowed exactly when the policy that decides about it lets the caller in. -/
theorem decision_under_allowed_iff (checker : Checker) (given : Option String) (target : Target)
    (user : Option User) :
    checker.decisionUnder given target user = .allowed ↔
      (target.deciding.judge (.ofUser? user)
        (RoleHolder.ofUser? user (.ofText? given)).holds).allowed = true := by
  rw [← judge_target_deciding]
  exact checker.decision_eq_allowed_iff _

/-- The anonymous user is decided about like no user, whatever was granted to it. -/
theorem decision_under_nobody (checker : Checker) (given : Option String) (target : Target)
    {user : User} (hanonymous : user.isAnonymous = true) :
    checker.decisionUnder given target (some user) = checker.decisionUnder given target none := by
  have hidentity : Identity.ofUser? (some user) = .ofUser? none := by
    simp [Identity.ofUser?, hanonymous]
  have hholder : RoleHolder.ofUser? (some user) (.ofText? given) =
      .ofUser? none (.ofText? given) := by
    simp [RoleHolder.ofUser?, hanonymous]
  rw [decisionUnder, decisionUnder, hidentity, hholder]

/-- Whatever the policies of a method and of its type and whatever the prefix, a user whose call is
allowed may make it after any further grants. A caller who is nobody known gets one decision,
whatever was granted to the anonymous user: the call is allowed exactly when the policy that decides
is open to anyone and does not deny everyone. -/
theorem grants_keep_access (checker : Checker) (given : Option String) (target : Target) :
    (∀ (user : User) (roles authorities : List String),
      checker.decisionUnder given target (some user) = .allowed →
        checker.decisionUnder given target (some (user.withGrants roles authorities)) =
          .allowed) ∧
    (∀ (user : User) (roles authorities : List String), user.isAnonymous = true →
      checker.decisionUnder given target (some (user.withGrants roles authorities)) =
        checker.decisionUnder given target none) ∧
    (checker.decisionUnder given target none = .allowed ↔
      target.deciding.anonymousAllowed = true ∧ ¬ target.deciding.denyAll = true) := by
  refine ⟨?_, ?_, ?_⟩
  · intro user roles authorities hallowed
    have hextends := user.extends_with_grants roles authorities
    rw [decision_under_allowed_iff] at hallowed ⊢
    rw [hextends.identity_eq]
    exact Policy.judge_mono (hextends.holds given) hallowed
  · intro user roles authorities hanonymous
    exact checker.decision_under_nobody given target
      ((user.extends_with_grants roles authorities).is_anonymous_eq.trans hanonymous)
  · rw [decision_under_allowed_iff]
    exact judge_nobody_iff _ _

/-- An auditor by authority keeps access with further grants, while the anonymous user does not get
it by being made an auditor. -/
theorem auditor_keeps_access :
    ((Checker.standard false).decisionUnder (some "ROLE_")
        ⟨.ofMarkers [.rolesAllowed ["AUDITOR"]], .ofMarkers [.denyAll]⟩
        (some ((User.named "ada").withGrants [] ["ROLE_AUDITOR"])) = .allowed ∧
      (Checker.standard false).decisionUnder (some "ROLE_")
        ⟨.ofMarkers [.rolesAllowed ["AUDITOR"]], .ofMarkers [.denyAll]⟩
        (some (((User.named "ada").withGrants [] ["ROLE_AUDITOR"]).withGrants ["USER"]
          ["ROLE_AUDITOR", "AUDITOR"])) = .allowed) ∧
    User.anonymous.isAnonymous = true ∧
    (Checker.standard false).decisionUnder (some "ROLE_")
        ⟨.ofMarkers [.rolesAllowed ["AUDITOR"]], .ofMarkers [.denyAll]⟩
        (some (User.anonymous.withGrants ["AUDITOR"] ["ROLE_AUDITOR"])) =
      .denied "Access denied" := by
  obtain ⟨hkept, hinert, -⟩ := grants_keep_access (.standard false) (some "ROLE_")
    ⟨.ofMarkers [.rolesAllowed ["AUDITOR"]], .ofMarkers [.denyAll]⟩
  have hbefore : (Checker.standard false).decisionUnder (some "ROLE_")
      ⟨.ofMarkers [.rolesAllowed ["AUDITOR"]], .ofMarkers [.denyAll]⟩
      (some ((User.named "ada").withGrants [] ["ROLE_AUDITOR"])) = .allowed := by
    decide +kernel
  refine ⟨⟨hbefore, hkept _ _ _ hbefore⟩, rfl, ?_⟩
  rw [hinert User.anonymous _ _ rfl]
  decide +kernel

end Checker

end EndpointGuard
