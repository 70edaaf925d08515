import EndpointGuard.Gate
import EndpointGuard.Proofs.MarkerList
import EndpointGuard.Proofs.TextParts
import EndpointGuard.Settings.Reader

/-!
# How roles are matched

A role is looked up in four places: by the settings themselves, by the checker that they call for,
by the gate, and by a service that reads what the gate attached to the request. Each takes the
prefix over from the one before. `HoldsRole` says by membership alone which users hold a role. Read
`roles_matched_alike` first: the four places answer what it says, so that a role and the same with
the prefix in front can stand for each other in every marker.
-/

namespace EndpointGuard

/-- What was granted to a user counts for the name of a role. A name that begins with the prefix
counts when the rest was granted as a role or the name as an authority, any other name when it was
granted as a role or with the prefix in front as an authority. An empty prefix is none. -/
inductive Granted (given : Option String) (known : User) (role : String) : Prop where
  | stripped {start rest : String} :
      given = some start → start ≠ "" → role = start ++ rest →
      rest ∈ known.roles.names ∨ role ∈ known.authorities.names → Granted given known role
  | lengthened {start : String} :
      given = some start → start ≠ "" → (∀ rest, role ≠ start ++ rest) →
      role ∈ known.roles.names ∨ start ++ role ∈ known.authorities.names →
      Granted given known role
  | plain :
      given = none ∨ given = some "" →
      role ∈ known.roles.names ∨ role ∈ known.authorities.names → Granted given known role

/-- The user is known, and what was granted to it counts for the role. -/
def HoldsRole (given : Option String) (user : Option User) (role : String) : Prop :=
  ∃ known, user = some known ∧ known.isAnonymous = false ∧ Granted given known role

/-- Two names that count for the same under a prefix: one name twice, or a name that does not begin
with the prefix and the same name behind it. -/
inductive SameRole (start : String) : String → String → Prop where
  | refl (role : String) : SameRole start role role
  | lengthen {role : String} : (∀ rest, role ≠ start ++ rest) → SameRole start role (start ++ role)
  | strip {role : String} : (∀ rest, role ≠ start ++ rest) → SameRole start (start ++ role) role

/-- Two markers that differ at most in such names of roles. -/
inductive SameMarker (start : String) : Marker → Marker → Prop where
  | refl (marker : Marker) : SameMarker start marker marker
  | rolesAllowed {first second : List String} :
      List.Forall₂ (SameRole start) first second →
      SameMarker start (.rolesAllowed first) (.rolesAllowed second)

/-! ## Prefixes -/

/-- What is cut off a text in front is exactly the beginning that was asked for. -/
theorem strip_start_eq_some_iff {start text rest : String} :
    stripStart? start text = some rest ↔ text = start ++ rest := by
  rw [stripStart?, Option.map_eq_some_iff]
  simp only [List.isPrefixOf?_eq_some_iff_append_eq]
  constructor
  · rintro ⟨left, hleft, rfl⟩
    rw [← String.toList_inj, String.toList_append, String.toList_ofList, hleft]
  · rintro rfl
    exact ⟨rest.toList, by simp, String.ofList_toList⟩

/-- Nothing is cut off a text that does not have the beginning. -/
theorem strip_start_eq_none_iff {start text : String} :
    stripStart? start text = none ↔ ∀ rest, text ≠ start ++ rest := by
  simp only [Option.eq_none_iff_forall_ne_some, ne_eq, strip_start_eq_some_iff]

/-- A prefix that is read and set again is the same prefix. -/
theorem of_text_text (rolePrefix : RolePrefix) : .ofText? rolePrefix.text? = rolePrefix := by
  obtain ⟨text, hne⟩ := rolePrefix
  simp only [RolePrefix.ofText?, RolePrefix.mk.injEq]
  cases text with
  | none => rfl
  | some start =>
      have hstart : start ≠ "" := fun h ↦ hne (congrArg some h)
      simp [Option.filter, hstart]

/-! ## The rule -/

/-- A name behind the prefix counts for itself as an authority and for the rest as a role. -/
theorem granted_behind_iff {start : String} (hne : start ≠ "") (known : User) (rest : String) :
    Granted (some start) known (start ++ rest) ↔
      rest ∈ known.roles.names ∨ start ++ rest ∈ known.authorities.names := by
  constructor
  · intro h
    cases h with
    | stripped hgiven _ hrole hfound =>
        obtain rfl := Option.some.inj hgiven
        simp only [← String.toList_inj, String.toList_append, List.append_cancel_left_eq] at hrole
        rwa [← String.toList_inj.mp hrole] at hfound
    | lengthened hgiven _ hrole _ =>
        obtain rfl := Option.some.inj hgiven
        exact absurd rfl (hrole rest)
    | plain hgiven _ => simp [hne] at hgiven
  · exact .stripped rfl hne rfl

/-- A name that does not begin with the prefix counts for itself as a role, and behind the prefix as
an authority. -/
theorem granted_bare_iff {start role : String} (hne : start ≠ "")
    (hrole : ∀ rest, role ≠ start ++ rest) (known : User) :
    Granted (some start) known role ↔
      role ∈ known.roles.names ∨ start ++ role ∈ known.authorities.names := by
  constructor
  · intro h
    cases h with
    | stripped hgiven _ hstart _ =>
        obtain rfl := Option.some.inj hgiven
        exact absurd hstart (hrole _)
    | lengthened hgiven _ _ hfound =>
        obtain rfl := Option.some.inj hgiven
        exact hfound
    | plain hgiven _ => simp [hne] at hgiven
  · exact .lengthened rfl hne hrole

/-- Without a prefix a name counts for itself. -/
theorem granted_plain_iff {given : Option String} (hgiven : given = none ∨ given = some "")
    (known : User) (role : String) :
    Granted given known role ↔ role ∈ known.roles.names ∨ role ∈ known.authorities.names := by
  constructor
  · intro h
    cases h with
    | stripped hsome hne _ _ => simp [hsome, hne] at hgiven
    | lengthened hsome hne _ _ => simp [hsome, hne] at hgiven
    | plain _ hfound => exact hfound
  · exact .plain hgiven

/-- A known user holds the roles that what was granted counts for. -/
theorem holds_known_iff {known : User} (hknown : known.isAnonymous = false) (given : Option String)
    (role : String) :
    (RoleHolder.ofUser? (some known) (.ofText? given)).holds role = true ↔
      Granted given known role := by
  have huser : (RoleHolder.ofUser? (some known) (.ofText? given)).user = some known := by
    simp [RoleHolder.ofUser?, hknown]
  have htext : (RoleHolder.ofUser? (some known) (.ofText? given)).rolePrefix.text? =
      given.filter (· ≠ "") := rfl
  unfold RoleHolder.holds
  rw [huser]
  dsimp only
  rw [htext]
  by_cases hgiven : given = none ∨ given = some ""
  · have hnone : given.filter (· ≠ "") = none := by
      rcases hgiven with rfl | rfl <;> rfl
    rw [hnone, granted_plain_iff hgiven]
    simp [User.hasRole, User.hasAuthority, NameSet.contains]
  · obtain ⟨start, rfl⟩ := Option.ne_none_iff_exists'.mp fun h ↦ hgiven (Or.inl h)
    have hne : start ≠ "" := fun h ↦ hgiven (Or.inr (congrArg some h))
    have hsome : (some start).filter (· ≠ "") = some start := by simp [Option.filter, hne]
    rw [hsome]
    dsimp only
    cases hstrip : stripStart? start role with
    | none =>
        rw [granted_bare_iff hne (strip_start_eq_none_iff.mp hstrip)]
        simp [User.hasRole, User.hasAuthority, NameSet.contains]
    | some rest =>
        obtain rfl := strip_start_eq_some_iff.mp hstrip
        rw [granted_behind_iff hne]
        simp [User.hasRole, User.hasAuthority, NameSet.contains]

/-- The check of a role for an optional user follows the rule. -/
theorem holds_iff (user : Option User) (given : Option String) (role : String) :
    (RoleHolder.ofUser? user (.ofText? given)).holds role = true ↔ HoldsRole given user role := by
  unfold HoldsRole
  cases user with
  | none => simp [RoleHolder.ofUser?, RoleHolder.holds]
  | some known =>
      cases hknown : known.isAnonymous with
      | true =>
          have hholder : (RoleHolder.ofUser? (some known) (.ofText? given)).user = none := by
            simp [RoleHolder.ofUser?, hknown]
          simp [RoleHolder.holds, hholder, hknown]
      | false => simp [holds_known_iff hknown, hknown]

/-! ## Names that stand for each other -/

/-- Names that count for the same are held alike. -/
theorem SameRole.holds_eq {start first second : String} (h : SameRole start first second)
    (user : Option User) :
    (RoleHolder.ofUser? user (.ofText? (some start))).holds first =
      (RoleHolder.ofUser? user (.ofText? (some start))).holds second := by
  have hlengthen : ∀ {role : String}, (∀ rest, role ≠ start ++ rest) →
      ((RoleHolder.ofUser? user (.ofText? (some start))).holds role = true ↔
        (RoleHolder.ofUser? user (.ofText? (some start))).holds (start ++ role) = true) := by
    intro role hrole
    -- Every name begins with the empty text.
    have hne : start ≠ "" := by
      rintro rfl
      exact hrole role (by simp)
    simp only [holds_iff, HoldsRole, granted_bare_iff hne hrole, granted_behind_iff hne]
  rw [Bool.eq_iff_iff]
  cases h with
  | refl => exact Iff.rfl
  | lengthen hrole => exact hlengthen hrole
  | strip hrole => exact (hlengthen hrole).symm

/-- Of two lists that are related item by item, one has an item of a kind exactly when the other has
one of the related kind. -/
theorem exists_mem_iff_of_forall₂ {α β : Type} {related : α → β → Prop} {left : List α}
    {right : List β} {p : α → Prop} {q : β → Prop} (h : List.Forall₂ related left right)
    (hkinds : ∀ a b, related a b → (p a ↔ q b)) : (∃ a ∈ left, p a) ↔ ∃ b ∈ right, q b := by
  induction h with
  | nil => simp
  | cons hfirst _ ih =>
      rw [List.exists_mem_cons_iff, List.exists_mem_cons_iff, hkinds _ _ hfirst, ih]

/-- A marker that names no roles is in both lists or in neither. -/
theorem SameMarker.mem_iff {start : String} {first second : List Marker}
    (h : List.Forall₂ (SameMarker start) first second) (marker : Marker)
    (hmarker : ∀ roles, marker ≠ .rolesAllowed roles) : marker ∈ first ↔ marker ∈ second := by
  have hsame := exists_mem_iff_of_forall₂ (p := (· = marker)) (q := (· = marker)) h
    (by
      intro a b hab
      cases hab with
      | refl => exact Iff.rfl
      | rolesAllowed => simp [eq_comm, hmarker])
  simpa using hsame

/-- Lists of such markers let the same callers in, if names that count for the same are held
alike. -/
theorem SameMarker.admits_iff {start : String} {first second : List Marker}
    (h : List.Forall₂ (SameMarker start) first second) (identity : Identity)
    {holds : String → Bool}
    (hholds : ∀ left right, SameRole start left right → holds left = holds right) :
    Admits first identity holds ↔ Admits second identity holds := by
  have hgrants : (∃ marker ∈ first, marker.grants holds = true) ↔
      ∃ marker ∈ second, marker.grants holds = true := by
    refine exists_mem_iff_of_forall₂ h fun a b hab ↦ ?_
    cases hab with
    | refl => exact Iff.rfl
    | rolesAllowed hroles =>
        simp only [Marker.grants, List.any_eq_true]
        refine exists_mem_iff_of_forall₂ hroles fun left right hsame ↦ ?_
        rw [hholds left right hsame]
  rw [exists_grants_iff, exists_grants_iff] at hgrants
  simp only [Admits, hgrants, mem_iff h .denyAll (by simp), mem_iff h .anonymousAllowed (by simp),
    mem_iff h .permitAll (by simp)]

/-- Where the names of roles in the markers of a method and of its type count for the same, so do
the decisions about it. -/
theorem Checker.decide_for_same_markers {checker : Checker} {start : String}
    (hstart : checker.rolePrefix = .ofText? (some start)) (user : Option User)
    {method method' type type' : List Marker}
    (hmethod : List.Forall₂ (SameMarker start) method method')
    (htype : List.Forall₂ (SameMarker start) type type') :
    (checker.decideFor ⟨.ofMarkers method, .ofMarkers type⟩ user).1 =
      (checker.decideFor ⟨.ofMarkers method', .ofMarkers type'⟩ user).1 := by
  have hdeciding : List.Forall₂ (SameMarker start) (decidingMarkers method type)
      (decidingMarkers method' type') := by
    unfold decidingMarkers
    cases hmethod with
    | nil => simpa using htype
    | cons hfirst hrest => simpa using ⟨hfirst, hrest⟩
  have hadmits := SameMarker.admits_iff hdeciding (.ofUser? user)
    fun left right hsame ↦ hsame.holds_eq user
  rw [← hstart, ← judge_target_of_markers, ← judge_target_of_markers, ← Bool.eq_iff_iff] at hadmits
  exact checker.decision_congr hadmits

namespace Gate

/-- Wherever a role is looked up, under the configured prefix, the prefix of the checker that the
settings call for, that of the gate, or the one that the gate attaches to a request, the answer is
what the rule says. So a name that does not begin with the prefix and the same name behind it can
stand for each other in every marker of a method and of its type, and no decision changes. -/
theorem roles_matched_alike (gate : Gate) (user : Option User) :
    (∀ role,
      ((RoleHolder.ofUser? user (.ofText? gate.settings.rolePrefix)).holds role = true ↔
        HoldsRole gate.settings.rolePrefix user role) ∧
      ((RoleHolder.ofUser? user (.ofText? gate.settings.checker.rolePrefix.text?)).holds role =
          true ↔ HoldsRole gate.settings.rolePrefix user role) ∧
      ((RoleHolder.ofUser? user (.ofText? gate.checker.rolePrefix.text?)).holds role = true ↔
        HoldsRole gate.settings.rolePrefix user role) ∧
      ∀ (context : RequestContext) (known : Option User),
        ({ context.attach known gate.checker.rolePrefix with user := user }.holdsRole role = true ↔
          HoldsRole gate.settings.rolePrefix user role)) ∧
    ∀ (start : String) (method method' type type' : List Marker),
      gate.settings.rolePrefix = some start →
      List.Forall₂ (SameMarker start) method method' →
      List.Forall₂ (SameMarker start) type type' →
        (gate.checker.decideFor ⟨.ofMarkers method, .ofMarkers type⟩ user).1 =
          (gate.checker.decideFor ⟨.ofMarkers method', .ofMarkers type'⟩ user).1 := by
  have hchecker : gate.checker.rolePrefix = .ofText? gate.settings.rolePrefix := rfl
  have hsettings : gate.settings.checker.rolePrefix = .ofText? gate.settings.rolePrefix := rfl
  refine ⟨fun role ↦ ⟨?_, ?_, ?_, ?_⟩, ?_⟩
  · exact holds_iff user gate.settings.rolePrefix role
  · rw [of_text_text, hsettings]
    exact holds_iff user gate.settings.rolePrefix role
  · rw [of_text_text, hchecker]
    exact holds_iff user gate.settings.rolePrefix role
  · intro context known
    rw [RequestContext.holdsRole, RequestContext.attach, Option.getD_some, hchecker]
    exact holds_iff user gate.settings.rolePrefix role
  · intro start method method' type type' hstart hmethod htype
    rw [hstart] at hchecker
    exact Checker.decide_for_same_markers hchecker user hmethod htype

/-- Under the standard prefix, an auditor by authority passes a marker with either name of the role,
and an empty prefix from a JSON text lets the name of an authority be looked up as it is. -/
theorem auditor_matched_alike :
    Settings.ofJson "\x7b\"role_prefix\":\"\"\x7d" =
      .ok { Settings.standard with rolePrefix := some "" } ∧
    (RoleHolder.ofUser? (some ((User.named "ada").grantAuthorities ["AUDITOR"]))
      (.ofText? (some ""))).holds "AUDITOR" = true ∧
    List.Forall₂ (SameMarker "ROLE_") [.rolesAllowed ["AUDITOR"]]
      [.rolesAllowed ["ROLE_AUDITOR"]] ∧
    (Settings.standard.checker.decideFor ⟨.ofMarkers [.rolesAllowed ["AUDITOR"]], .unspecified⟩
      (some ((User.named "bob").grantAuthorities ["ROLE_AUDITOR"]))).1 = .allowed ∧
    (Settings.standard.checker.decideFor ⟨.ofMarkers [.rolesAllowed ["AUDITOR"]], .unspecified⟩
        (some ((User.named "bob").grantAuthorities ["ROLE_AUDITOR"]))).1 =
      (Settings.standard.checker.decideFor
        ⟨.ofMarkers [.rolesAllowed ["ROLE_AUDITOR"]], .unspecified⟩
        (some ((User.named "bob").grantAuthorities ["ROLE_AUDITOR"]))).1 := by
  have hbare : ∀ rest, "AUDITOR" ≠ "ROLE_" ++ rest := by
    intro rest h
    have hfirst := congrArg (fun text ↦ text.toList.head?) h
    simp at hfirst
  have hmarkers : List.Forall₂ (SameMarker "ROLE_") [.rolesAllowed ["AUDITOR"]]
      [.rolesAllowed ["ROLE_AUDITOR"]] :=
    .cons (.rolesAllowed (.cons (.lengthen hbare) .nil)) .nil
  obtain ⟨hempty, _⟩ := roles_matched_alike
    ⟨.empty, { Settings.standard with rolePrefix := some "" }, none⟩
    (some ((User.named "ada").grantAuthorities ["AUDITOR"]))
  obtain ⟨_, hstandard⟩ := roles_matched_alike ⟨.empty, .standard, none⟩
    (some ((User.named "bob").grantAuthorities ["ROLE_AUDITOR"]))
  refine ⟨rfl, ?_, hmarkers, by decide +kernel, ?_⟩
  · exact (hempty "AUDITOR").1.mpr ⟨_, rfl, rfl, .plain (Or.inr rfl) (Or.inr (by decide))⟩
  · exact hstandard "ROLE_" _ _ [] [] rfl hmarkers .nil

end Gate

end EndpointGuard
