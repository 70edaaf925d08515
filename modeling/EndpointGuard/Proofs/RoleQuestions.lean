import EndpointGuard.Proofs.FirstMentions
import EndpointGuard.Proofs.Grants
import EndpointGuard.Proofs.PolicyMarkers

/-!
# Which roles a check asks about

Whether a caller holds a role may be slow to find out, so it matters which roles a check asks about
and in which order. `Checker.decideIn` makes a decision with questions that are steps of a
computation, and `recorded` answers them while it writes them down. Read `roles_asked_until_held`
first: what is written down is empty unless the roles of the deciding scope matter for the caller,
and then these roles are asked about in the order in which they are named, up to the first that is
held. No question is one too many: each is asked while the decision is still open.
-/

namespace EndpointGuard

/-! ## Questions and what is asked for -/

/-- The roles that a marker names. -/
def Marker.roles : Marker → List String
  | .rolesAllowed roles => roles
  | _ => []

/-- The roles that the markers of a scope name, each at its first place. -/
def namedRoles (markers : List Marker) : List String :=
  (markers.flatMap Marker.roles).eraseDups

/-- The markers of the deciding scope settle what becomes of the caller without a look at its
roles. -/
def SettledWithoutRoles (markers : List Marker) (identity : Identity) : Prop :=
  markers = [] ∨ .denyAll ∈ markers ∨ .anonymousAllowed ∈ markers ∨ identity = .anonymous ∨
    .permitAll ∈ markers ∨ ∀ roles, .rolesAllowed roles ∉ markers

/-- The asked roles are those of the list up to the first that is held, or all of them if none
is. -/
def UpToFirstHeld (holds : String → Bool) (roles asked : List String) : Prop :=
  (∃ before role after, roles = before ++ role :: after ∧
    (∀ earlier ∈ before, holds earlier = false) ∧ holds role = true ∧ asked = before ++ [role]) ∨
  ((∀ role ∈ roles, holds role = false) ∧ asked = roles)

/-- The roles that are asked about where these markers decide: none if the markers settle the matter
without them, and otherwise the named roles up to the first that is held. -/
structure AsksInTurn (markers : List Marker) (identity : Identity) (holds : String → Bool)
    (asked : List String) : Prop where
  eq_nil : SettledWithoutRoles markers identity → asked = []
  up_to_first : ¬ SettledWithoutRoles markers identity →
    UpToFirstHeld holds (namedRoles markers) asked

/-- With the answers to the questions asked so far, a call may still be allowed and may still be
denied. -/
def Undecided (target : Target) (identity : Identity) (holds : String → Bool)
    (answered : List String) : Prop :=
  ∃ more fewer : String → Bool,
    (∀ role ∈ answered, more role = holds role ∧ fewer role = holds role) ∧
    (judgeTarget target identity more).allowed = true ∧
    (judgeTarget target identity fewer).allowed = false

/-! ## Questions as steps of a computation -/

section Computation

variable {m : Type → Type} [Monad m]

/-- Judge a caller by one policy, where asking about a role is a step of a computation. -/
def Policy.judgeIn (policy : Policy) (identity : Identity) (ask : String → m Bool) : m Bool :=
  if policy.denyAll then pure false
  else if policy.anonymousAllowed then pure true
  else if identity.isAnonymous then pure false
  else if policy.permitAll then pure true
  else
    match policy.roles with
    | none => pure false
    | some roles => roles.names.anyM ask

/-- Judge a caller by the policy of a type, where asking about a role is a step of a computation. -/
def judgeTypeIn (policy : Policy) (identity : Identity) (ask : String → m Bool) : m Bool :=
  if policy.isSpecified then policy.judgeIn identity ask else pure false

/-- Judge a caller by the policy of a method or else of its type, where asking about a role is a
step of a computation. -/
def judgeTargetIn (target : Target) (identity : Identity) (ask : String → m Bool) : m Bool :=
  if target.method.isSpecified then target.method.judgeIn identity ask
  else judgeTypeIn target.declaringType identity ask

/-- Decide about a call, where asking about a role is a step of a computation. -/
def Checker.decideIn (checker : Checker) (target : Target) (identity : Identity)
    (ask : String → m Bool) : m Decision := do
  let allowed ← judgeTargetIn target identity ask
  pure (checker.decision { allowed := allowed })

/-- Decide about a type as a whole, where asking about a role is a step of a computation. -/
def Checker.decideTypeIn (checker : Checker) (policy : Policy) (identity : Identity)
    (ask : String → m Bool) : m Decision := do
  let allowed ← judgeTypeIn policy identity ask
  pure (checker.decision { allowed := allowed })

end Computation

/-- Answer a question about a role and write it down behind the earlier ones. -/
def recorded (holds : String → Bool) (role : String) : StateM (List String) Bool := do
  modify (· ++ [role])
  pure (holds role)

variable {holds : String → Bool}

/-! ## Where the roles matter -/

/-- The roles of the policy matter for the caller. -/
def Policy.AsksRoles (policy : Policy) (identity : Identity) (roles : NameSet) : Prop :=
  policy.denyAll = false ∧ policy.anonymousAllowed = false ∧ identity.isAnonymous = false ∧
    policy.permitAll = false ∧ policy.roles = some roles

/-- Where the roles matter, a judgement searches them for one that is held. -/
theorem Policy.AsksRoles.judge_eq {policy : Policy} {identity : Identity} {roles : NameSet}
    (h : policy.AsksRoles identity roles) (holds : String → Bool) :
    (policy.judge identity holds).allowed = roles.names.any holds ∧
      (policy.judge identity holds).asked = askedRoles holds roles.names := by
  obtain ⟨hdeny, hopen, hknown, hpermit, hroles⟩ := h
  simp [judge, hdeny, hopen, hknown, hpermit, hroles]

/-- So it does where questions are steps of a computation. -/
theorem Policy.AsksRoles.judge_in_eq {m : Type → Type} [Monad m] {policy : Policy}
    {identity : Identity} {roles : NameSet} (h : policy.AsksRoles identity roles)
    (ask : String → m Bool) : policy.judgeIn identity ask = roles.names.anyM ask := by
  obtain ⟨hdeny, hopen, hknown, hpermit, hroles⟩ := h
  simp [judgeIn, hdeny, hopen, hknown, hpermit, hroles]

/-- Where the roles do not matter, a judgement is made without a question. -/
theorem Policy.judge_of_not_asks {policy : Policy} {identity : Identity}
    (h : ∀ roles, ¬ policy.AsksRoles identity roles) :
    ∃ allowed,
      (∀ holds, (policy.judge identity holds).allowed = allowed ∧
        (policy.judge identity holds).asked = []) ∧
      ∀ (m : Type → Type) [Monad m] (ask : String → m Bool),
        policy.judgeIn identity ask = pure allowed := by
  unfold judge judgeIn
  cases hdeny : policy.denyAll with
  | true => exact ⟨false, fun _ ↦ ⟨rfl, rfl⟩, fun _ _ _ ↦ rfl⟩
  | false =>
  cases hopen : policy.anonymousAllowed with
  | true => exact ⟨true, fun _ ↦ ⟨rfl, rfl⟩, fun _ _ _ ↦ rfl⟩
  | false =>
  cases hknown : identity.isAnonymous with
  | true => exact ⟨false, fun _ ↦ ⟨rfl, rfl⟩, fun _ _ _ ↦ rfl⟩
  | false =>
  cases hpermit : policy.permitAll with
  | true => exact ⟨true, fun _ ↦ ⟨rfl, rfl⟩, fun _ _ _ ↦ rfl⟩
  | false =>
  cases hroles : policy.roles with
  | none => exact ⟨false, fun _ ↦ ⟨rfl, rfl⟩, fun _ _ _ ↦ rfl⟩
  | some roles => exact absurd ⟨hdeny, hopen, hknown, hpermit, hroles⟩ (h roles)

/-- Where the roles do not matter, none is asked about. -/
theorem Policy.judge_asked_eq_nil {policy : Policy} {identity : Identity}
    (h : ∀ roles, ¬ policy.AsksRoles identity roles) (holds : String → Bool) :
    (policy.judge identity holds).asked = [] := by
  obtain ⟨allowed, hjudge, -⟩ := judge_of_not_asks h
  exact (hjudge holds).2

/-! ## What is written down -/

/-- A search for a role that is held writes down the roles that it asks about. -/
theorem run_any_recorded (roles asked : List String) :
    (roles.anyM (recorded holds)).run asked =
      (roles.any holds, asked ++ askedRoles holds roles) := by
  induction roles generalizing asked with
  | nil =>
      rw [askedRoles, List.append_nil]
      rfl
  | cons role rest ih =>
      have hstep : (List.anyM (recorded holds) (role :: rest)).run asked =
          if holds role then (true, asked ++ [role])
          else (rest.anyM (recorded holds)).run (asked ++ [role]) := by
        rw [List.anyM_cons]
        cases hrole : holds role <;> simp [recorded, hrole]
        rfl
      rw [hstep, askedRoles, List.any_cons]
      cases hrole : holds role with
      | true => rfl
      | false => simp [ih]

/-- A judgement writes down what the verdict says was asked. -/
theorem Policy.run_judge_recorded (policy : Policy) (identity : Identity) (asked : List String) :
    (policy.judgeIn identity (recorded holds)).run asked =
      ((policy.judge identity holds).allowed, asked ++ (policy.judge identity holds).asked) := by
  by_cases hasks : ∃ roles, policy.AsksRoles identity roles
  · obtain ⟨roles, hasks⟩ := hasks
    rw [hasks.judge_in_eq, run_any_recorded, (hasks.judge_eq holds).1, (hasks.judge_eq holds).2]
  · obtain ⟨allowed, hjudge, hrun⟩ := judge_of_not_asks (not_exists.mp hasks)
    rw [hrun, (hjudge holds).1, (hjudge holds).2, List.append_nil]
    rfl

/-- So does a judgement by the policy of a type. -/
theorem run_judge_type_recorded (policy : Policy) (identity : Identity) (asked : List String) :
    (judgeTypeIn policy identity (recorded holds)).run asked =
      ((judgeType policy identity holds).allowed,
        asked ++ (judgeType policy identity holds).asked) := by
  unfold judgeTypeIn judgeType
  split
  · exact policy.run_judge_recorded identity asked
  · rw [List.append_nil]
    rfl

/-- So does a judgement by the policy of a method or else of its type. -/
theorem run_judge_target_recorded (target : Target) (identity : Identity) (asked : List String) :
    (judgeTargetIn target identity (recorded holds)).run asked =
      ((judgeTarget target identity holds).allowed,
        asked ++ (judgeTarget target identity holds).asked) := by
  unfold judgeTargetIn judgeTarget
  split
  · exact target.method.run_judge_recorded identity asked
  · exact run_judge_type_recorded target.declaringType identity asked

/-! ## What is asked -/

/-- A search asks about the roles up to the first that is held. -/
theorem up_to_first_asked (roles : List String) :
    UpToFirstHeld holds roles (askedRoles holds roles) := by
  induction roles with
  | nil => exact Or.inr ⟨by simp, rfl⟩
  | cons role rest ih =>
      rw [askedRoles]
      cases hrole : holds role with
      | true => exact Or.inl ⟨[], role, rest, rfl, by simp, hrole, rfl⟩
      | false =>
          rcases ih with ⟨before, found, after, rfl, hbefore, hfound, hasked⟩ | ⟨hnone, hasked⟩
          · refine Or.inl ⟨role :: before, found, after, rfl, ?_, hfound, by simp [hasked]⟩
            simpa [hrole] using hbefore
          · refine Or.inr ⟨?_, by simp [hasked]⟩
            simpa [hrole] using hnone

/-- A policy has no roles exactly if it had none and no marker that was added names any, were it
none at all. -/
theorem roles_collected_eq_none_iff (policy : Policy) (markers : List Marker) :
    (markers.foldl Policy.withMarker policy).roles = none ↔
      policy.roles = none ∧ ∀ roles, .rolesAllowed roles ∉ markers := by
  induction markers generalizing policy with
  | nil => simp
  | cons marker rest ih =>
      rw [List.foldl_cons, ih]
      cases marker with
      | rolesAllowed roles =>
          constructor
          · rintro ⟨hnone, _⟩
            cases hnone
          · rintro ⟨_, hall⟩
            exact absurd List.mem_cons_self (hall roles)
      | denyAll => simp [Policy.withMarker]
      | anonymousAllowed => simp [Policy.withMarker]
      | permitAll => simp [Policy.withMarker]

/-- A collected policy has roles exactly if a marker names some, were it none at all. -/
theorem roles_of_markers_is_some (markers : List Marker) :
    (Policy.ofMarkers markers).roles.isSome = true ↔ ∃ roles, .rolesAllowed roles ∈ markers := by
  rw [Option.isSome_iff_ne_none, ne_eq, Policy.ofMarkers, roles_collected_eq_none_iff]
  simp [Policy.unspecified]

/-- A marker adds the roles that it names to those of a policy. -/
theorem roles_with_marker (policy : Policy) (marker : Marker) :
    (policy.withMarker marker).roles.getD .empty =
      (policy.roles.getD .empty).insertAll marker.roles := by
  cases marker <;> rfl

/-- The roles of a collected policy are those that the markers name, each at its first place. -/
theorem names_of_markers {markers : List Marker} {roles : NameSet}
    (h : (Policy.ofMarkers markers).roles = some roles) : roles.names = namedRoles markers := by
  have hfirst := FirstMentions.run (fun policy : Policy ↦ policy.roles.getD .empty)
    roles_with_marker .unspecified markers
  rw [← Policy.ofMarkers, h] at hfirst
  exact hfirst.eq_erase_dups

/-- A collected policy asks about roles unless its markers settle the matter without them. -/
theorem asks_roles_of_markers_iff (markers : List Marker) (identity : Identity) :
    (∃ roles, (Policy.ofMarkers markers).AsksRoles identity roles) ↔
      ¬ SettledWithoutRoles markers identity := by
  simp only [Policy.AsksRoles, exists_and_left, ← Option.isSome_iff_exists,
    roles_of_markers_is_some, ← Bool.not_eq_true, deny_all_of_markers,
    anonymous_allowed_of_markers, permit_all_of_markers, SettledWithoutRoles, not_or, not_forall,
    not_not]
  constructor
  · rintro ⟨hdeny, hopen, hknown, hpermit, roles, hroles⟩
    refine ⟨List.ne_nil_of_mem hroles, hdeny, hopen, ?_, hpermit, roles, hroles⟩
    rintro rfl
    exact hknown rfl
  · rintro ⟨-, hdeny, hopen, hknown, hpermit, hroles⟩
    refine ⟨hdeny, hopen, ?_, hpermit, hroles⟩
    cases identity with
    | authenticated name => simp [Identity.isAnonymous]
    | anonymous => exact absurd rfl hknown

/-- What a scope asks about follows from its markers. -/
theorem judge_asks_in_turn (markers : List Marker) (identity : Identity) (holds : String → Bool) :
    AsksInTurn markers identity holds
      ((Policy.ofMarkers markers).judge identity holds).asked where
  eq_nil hsettled := by
    refine Policy.judge_asked_eq_nil (fun roles hasks ↦ ?_) holds
    exact (asks_roles_of_markers_iff markers identity).mp ⟨roles, hasks⟩ hsettled
  up_to_first hopen := by
    obtain ⟨roles, hasks⟩ := (asks_roles_of_markers_iff markers identity).mpr hopen
    rw [(hasks.judge_eq holds).2, ← names_of_markers hasks.2.2.2.2]
    exact up_to_first_asked roles.names

/-- Only roles that the markers name are asked about. -/
theorem AsksInTurn.named {markers : List Marker} {identity : Identity} {asked : List String}
    (h : AsksInTurn markers identity holds asked) {role : String} (hrole : role ∈ asked) :
    ∃ roles, .rolesAllowed roles ∈ markers ∧ role ∈ roles := by
  by_cases hsettled : SettledWithoutRoles markers identity
  · rw [h.eq_nil hsettled] at hrole
    cases hrole
  · have hnamed : role ∈ namedRoles markers := by
      rcases h.up_to_first hsettled with ⟨before, found, after, hroles, -, -, rfl⟩ | ⟨-, rfl⟩
      · rw [hroles, List.append_cons]
        exact List.mem_append_left after hrole
      · exact hrole
    obtain ⟨marker, hmem, hmarker⟩ := List.mem_flatMap.mp (List.mem_eraseDups.mp hnamed)
    cases marker with
    | rolesAllowed roles => exact ⟨roles, hmem, hmarker⟩
    | denyAll => cases hmarker
    | anonymousAllowed => cases hmarker
    | permitAll => cases hmarker

/-! ## The scope that decides -/

/-- The markers that decide make up the policy that decides. -/
theorem deciding_of_markers (method type : List Marker) :
    (Target.mk (.ofMarkers method) (.ofMarkers type)).deciding =
      .ofMarkers (decidingMarkers method type) := by
  unfold Target.deciding decidingMarkers
  by_cases hnone : method = []
  · subst hnone
    rfl
  · rw [if_pos ((is_specified_of_markers method).mpr hnone), if_neg hnone]

/-- About a call, the policy that decides asks. -/
theorem judge_target_asked (target : Target) (identity : Identity) (holds : String → Bool) :
    (judgeTarget target identity holds).asked = (target.deciding.judge identity holds).asked := by
  unfold judgeTarget judgeType Target.deciding
  cases target.method.isSpecified with
  | true => rfl
  | false =>
      cases htype : target.declaringType.isSpecified with
      | true => rfl
      | false =>
          -- A policy without markers has no roles to ask about.
          have hnone : target.declaringType.roles = none := by
            simp only [Policy.isSpecified, Bool.or_eq_false_iff, Option.isSome_eq_false_iff,
              Option.isNone_iff_eq_none] at htype
            exact htype.2
          refine (Policy.judge_asked_eq_nil ?_ holds).symm
          rintro roles ⟨-, -, -, -, hroles⟩
          cases hnone.symm.trans hroles

/-- What is asked about a call follows from the markers that decide. -/
theorem judge_target_asks_in_turn (method type : List Marker) (identity : Identity)
    (holds : String → Bool) :
    AsksInTurn (decidingMarkers method type) identity holds
      (judgeTarget ⟨.ofMarkers method, .ofMarkers type⟩ identity holds).asked := by
  rw [judge_target_asked, deciding_of_markers]
  exact judge_asks_in_turn _ identity holds

/-! ## No question is one too many -/

/-- All roles asked about before another question were not held. -/
theorem not_held_of_asked {roles before after : List String} {role : String}
    (h : askedRoles holds roles = before ++ role :: after) :
    ∀ earlier ∈ before, holds earlier = false := by
  induction roles generalizing before with
  | nil => simp [askedRoles] at h
  | cons first rest ih =>
      cases before with
      | nil => simp
      | cons next others =>
          rw [askedRoles] at h
          split at h
          · simp at h
          · rename_i hfirst
            obtain ⟨rfl, hrest⟩ := List.cons.inj h
            simpa [hfirst] using ih hrest

/-- What is asked about is a beginning of the list. -/
theorem asked_prefix (roles : List String) : askedRoles holds roles <+: roles := by
  rcases @up_to_first_asked holds roles with
    ⟨before, role, after, hroles, -, -, hasked⟩ | ⟨-, hasked⟩
  · rw [hasked, hroles, List.append_cons before role after]
    exact List.prefix_append _ after
  · exact ⟨[], by rw [hasked, List.append_nil]⟩

/-- Whenever a role is asked about, the call may still be allowed and may still be denied. -/
theorem undecided_of_asked {target : Target} {identity : Identity} {before after : List String}
    {role : String} (h : (judgeTarget target identity holds).asked = before ++ role :: after) :
    Undecided target identity holds before := by
  rw [judge_target_asked] at h
  obtain ⟨roles, hasks⟩ : ∃ roles, target.deciding.AsksRoles identity roles := by
    refine Classical.byContradiction fun hnone ↦ ?_
    rw [Policy.judge_asked_eq_nil (not_exists.mp hnone)] at h
    simp at h
  rw [(hasks.judge_eq holds).2] at h
  have hbefore := not_held_of_asked h
  have hprefix : before ++ role :: after <+: roles.names := h ▸ asked_prefix roles.names
  have hrole : role ∈ roles.names := hprefix.subset (by simp)
  -- The names are distinct, so that a role is never asked about twice.
  have hnew : role ∉ before := by
    intro hmem
    have hdistinct := roles.distinct.sublist hprefix.sublist
    exact (List.nodup_append.mp hdistinct).2.2 role hmem role (by simp) rfl
  refine ⟨(· == role), fun _ ↦ false, ?_, ?_, ?_⟩
  · intro earlier hearlier
    have hne : earlier ≠ role := fun heq ↦ hnew (heq ▸ hearlier)
    simp [hbefore earlier hearlier, hne]
  · rw [judge_target_deciding, (hasks.judge_eq _).1, List.any_eq_true]
    exact ⟨role, hrole, by simp⟩
  · rw [judge_target_deciding, (hasks.judge_eq _).1]
    simp

namespace Checker

/-- Deciding about a call writes down what the verdict says was asked. -/
theorem run_decide_recorded (checker : Checker) (target : Target) (identity : Identity)
    (asked : List String) :
    (checker.decideIn target identity (recorded holds)).run asked =
      ((checker.decide target identity holds).1,
        asked ++ (judgeTarget target identity holds).asked) := by
  have hrun : (checker.decideIn target identity (recorded holds)).run asked =
      let (allowed, written) := (judgeTargetIn target identity (recorded holds)).run asked
      (checker.decision { allowed := allowed }, written) := rfl
  rw [hrun, run_judge_target_recorded]
  rfl

/-- Every target is given by two lists of markers. Deciding about a call asks, in order, about the
roles that the markers of the deciding scope name, up to the first that is held, and about none at
all where these markers settle the matter without roles; roles that only the other scope names are
never asked about. The verdict lists what was asked. The same holds for a type as a whole with the
markers of the type. Whenever a role is asked about, the answers so far leave the decision open. -/
theorem roles_asked_until_held (checker : Checker) (identity : Identity) (holds : String → Bool) :
    (∀ target : Target, ∃ method type, target = ⟨.ofMarkers method, .ofMarkers type⟩) ∧
    (∀ method type : List Marker, ∃ asked,
      (judgeTarget ⟨.ofMarkers method, .ofMarkers type⟩ identity holds).asked = asked ∧
      (∀ earlier, (checker.decideIn ⟨.ofMarkers method, .ofMarkers type⟩ identity
          (recorded holds)).run earlier =
        ((checker.decide ⟨.ofMarkers method, .ofMarkers type⟩ identity holds).1,
          earlier ++ asked)) ∧
      AsksInTurn (decidingMarkers method type) identity holds asked ∧
      (∀ role ∈ asked, ∃ roles, .rolesAllowed roles ∈ decidingMarkers method type ∧ role ∈ roles) ∧
      ∀ before role after, asked = before ++ role :: after →
        Undecided ⟨.ofMarkers method, .ofMarkers type⟩ identity holds before) ∧
    (∀ type : List Marker, ∃ asked,
      (judgeType (.ofMarkers type) identity holds).asked = asked ∧
      (∀ earlier, (checker.decideTypeIn (.ofMarkers type) identity (recorded holds)).run earlier =
        ((checker.decideType (.ofMarkers type) identity holds).1, earlier ++ asked)) ∧
      AsksInTurn type identity holds asked) := by
  refine ⟨?_, ?_, ?_⟩
  · intro target
    refine ⟨target.method.markers, target.declaringType.markers, ?_⟩
    rw [of_markers_markers, of_markers_markers]
  · intro method type
    have hasks := judge_target_asks_in_turn method type identity holds
    exact ⟨_, rfl, checker.run_decide_recorded _ identity, hasks, fun _ ↦ hasks.named,
      fun _ _ _ ↦ undecided_of_asked⟩
  · intro type
    -- A type as a whole is decided about like a method without markers.
    exact ⟨_, rfl, checker.run_decide_recorded ⟨.ofMarkers [], .ofMarkers type⟩ identity,
      judge_target_asks_in_turn [] type identity holds⟩

/-- Two markers of a type name the role of the caller as the second of three: the role behind it is
not asked about. -/
theorem auditor_found_at_second_question :
    ¬ SettledWithoutRoles [.rolesAllowed ["ADMIN", "AUDITOR"], .rolesAllowed ["AUDITOR", "CLERK"]]
      (.authenticated "ada") ∧
    ((Checker.standard false).decideIn
        ⟨.ofMarkers [], .ofMarkers [.rolesAllowed ["ADMIN", "AUDITOR"],
          .rolesAllowed ["AUDITOR", "CLERK"]]⟩
        (.authenticated "ada") (recorded (· == "AUDITOR"))).run [] =
      (.allowed, ["ADMIN", "AUDITOR"]) ∧
    UpToFirstHeld (· == "AUDITOR") ["ADMIN", "AUDITOR", "CLERK"] ["ADMIN", "AUDITOR"] := by
  have hopen : ¬ SettledWithoutRoles
      [.rolesAllowed ["ADMIN", "AUDITOR"], .rolesAllowed ["AUDITOR", "CLERK"]]
      (.authenticated "ada") := by
    simp only [SettledWithoutRoles, not_or]
    exact ⟨by simp, by simp, by simp, by simp, by simp, fun hnone ↦ hnone _ List.mem_cons_self⟩
  obtain ⟨-, hcalls, -⟩ :=
    roles_asked_until_held (.standard false) (.authenticated "ada") (· == "AUDITOR")
  obtain ⟨asked, -, hrun, hasks, -⟩ := hcalls [] [.rolesAllowed ["ADMIN", "AUDITOR"],
    .rolesAllowed ["AUDITOR", "CLERK"]]
  have hasked : asked = ["ADMIN", "AUDITOR"] := (congrArg Prod.snd (hrun [])).symm
  subst hasked
  exact ⟨hopen, hrun [], hasks.up_to_first hopen⟩

end Checker

end EndpointGuard
