import EndpointGuard.Checker

/-!
# What lists of markers decide

A policy is collected from markers one after the other, with flags and a merged list of roles, and
then judged by a chain of tests. `Admits` says by membership alone which callers the markers of one
scope let in, and `Rearranged` relates lists that say the same. Read `decide_of_markers` first: the
decision about a call is whether the markers of the method, or for want of any those of its type,
admit the caller. `of_markers_reads` is the one induction over the collected list.
-/

namespace EndpointGuard

/-- The markers of one scope let a caller in. -/
def Admits (markers : List Marker) (identity : Identity) (holds : String → Bool) : Prop :=
  .denyAll ∉ markers ∧
    (.anonymousAllowed ∈ markers ∨
      (∃ name, identity = .authenticated name) ∧
        (.permitAll ∈ markers ∨
          ∃ roles, .rolesAllowed roles ∈ markers ∧ ∃ role ∈ roles, holds role = true))

/-- The markers that decide about a call: those of the method, or those of its type if the method
has none. -/
def decidingMarkers (method type : List Marker) : List Marker :=
  if method = [] then type else method

/-- Two lists of markers differ in their order, in how often a marker is repeated, and in how roles
are spread over markers. -/
inductive Rearranged : List Marker → List Marker → Prop where
  | permuted {first second : List Marker} : first.Perm second → Rearranged first second
  | repeated {marker : Marker} {markers : List Marker} :
      marker ∈ markers → Rearranged markers (marker :: markers)
  | split {first second : List String} {markers : List Marker} :
      Rearranged (.rolesAllowed (first ++ second) :: markers)
        (.rolesAllowed first :: .rolesAllowed second :: markers)
  | symm {first second : List Marker} : Rearranged first second → Rearranged second first
  | trans {first second third : List Marker} :
      Rearranged first second → Rearranged second third → Rearranged first third

/-! ## Rearranged lists -/

/-- A list without markers stays one. -/
theorem Rearranged.eq_nil_iff {first second : List Marker} (h : Rearranged first second) :
    first = [] ↔ second = [] := by
  induction h with
  | permuted h => rw [← List.length_eq_zero_iff, h.length_eq, List.length_eq_zero_iff]
  | repeated hmem => simp [List.ne_nil_of_mem hmem]
  | split => simp
  | symm _ ih => exact ih.symm
  | trans _ _ ih ih' => exact ih.trans ih'

/-- Rearranged lists let the same callers in. -/
theorem Rearranged.admits_iff {first second : List Marker} (h : Rearranged first second)
    (identity : Identity) (holds : String → Bool) :
    Admits first identity holds ↔ Admits second identity holds := by
  induction h with
  | permuted h => simp only [Admits, h.mem_iff]
  | repeated hmem =>
      rename_i marker markers
      have hsame : ∀ other, other ∈ marker :: markers ↔ other ∈ markers := by
        intro other
        simp only [List.mem_cons, or_iff_right_iff_imp]
        rintro rfl
        exact hmem
      simp only [Admits, hsame]
  | split =>
      rename_i left right markers
      -- Only the question whether some role is held sees the split.
      have hroles : (∃ roles, Marker.rolesAllowed roles ∈ .rolesAllowed (left ++ right) :: markers ∧
            ∃ role ∈ roles, holds role = true) ↔
          ∃ roles, Marker.rolesAllowed roles ∈
              .rolesAllowed left :: .rolesAllowed right :: markers ∧
            ∃ role ∈ roles, holds role = true := by
        simp only [List.mem_cons, Marker.rolesAllowed.injEq, or_and_right, exists_or,
          exists_eq_left, List.mem_append, or_assoc]
      simp only [Admits, hroles]
      simp
  | symm _ ih => exact ih.symm
  | trans _ _ ih ih' => exact ih.trans ih'

/-- Where the markers of a method and of its type are rearranged, so are those that decide. -/
theorem Rearranged.deciding {method other type otherType : List Marker}
    (hmethod : Rearranged method other) (htype : Rearranged type otherType) :
    Rearranged (decidingMarkers method type) (decidingMarkers other otherType) := by
  unfold decidingMarkers
  by_cases hnone : method = []
  · rw [if_pos hnone, if_pos (hmethod.eq_nil_iff.mp hnone)]
    exact htype
  · rw [if_neg hnone, if_neg fun h ↦ hnone (hmethod.eq_nil_iff.mpr h)]
    exact hmethod

/-! ## What is collected from a list -/

/-- What a collected policy answers to a question is whether some marker of the list answers it, if
each marker adds its own answer to that of the policy so far. -/
theorem of_markers_reads (read : Policy → Bool) (answers : Marker → Bool)
    (hstart : read .unspecified = false)
    (hstep : ∀ policy marker, read (policy.withMarker marker) = (read policy || answers marker))
    (markers : List Marker) : read (.ofMarkers markers) = markers.any answers := by
  have hcollect : ∀ policy, read (markers.foldl Policy.withMarker policy) =
      (read policy || markers.any answers) := by
    induction markers with
    | nil => simp
    | cons marker rest ih =>
        intro policy
        rw [List.foldl_cons, ih, hstep, List.any_cons, Bool.or_assoc]
  rw [Policy.ofMarkers, hcollect, hstart, Bool.false_or]

/-- Some role of the policy is held. -/
def Policy.grants (policy : Policy) (holds : String → Bool) : Bool :=
  match policy.roles with
  | none => false
  | some roles => roles.names.any holds

/-- Some role of the marker is held. -/
def Marker.grants (marker : Marker) (holds : String → Bool) : Bool :=
  match marker with
  | .rolesAllowed roles => roles.any holds
  | _ => false

/-- A collected policy grants a role exactly when one of its markers does; that names are kept once
cannot be seen. -/
theorem grants_with_marker (holds : String → Bool) (policy : Policy) (marker : Marker) :
    (policy.withMarker marker).grants holds =
      (policy.grants holds || marker.grants holds) := by
  cases marker with
  | rolesAllowed roles =>
      rw [Bool.eq_iff_iff]
      cases hroles : policy.roles with
      | none =>
          simp [Policy.withMarker, Policy.allowRoles, Policy.grants, Marker.grants, hroles,
            NameSet.mem_names_insert_all, NameSet.empty]
      | some known =>
          simp [Policy.withMarker, Policy.allowRoles, Policy.grants, Marker.grants, hroles,
            NameSet.mem_names_insert_all, or_and_right, exists_or]
  | denyAll => simp [Policy.withMarker, Policy.grants, Marker.grants]
  | anonymousAllowed => simp [Policy.withMarker, Policy.grants, Marker.grants]
  | permitAll => simp [Policy.withMarker, Policy.grants, Marker.grants]

/-- A flag that one marker sets is set exactly by a list with this marker. -/
theorem flag_of_markers (read : Policy → Bool) (flag : Marker)
    (hstart : read .unspecified = false)
    (hstep : ∀ policy marker,
      read (policy.withMarker marker) = (read policy || decide (marker = flag)))
    (markers : List Marker) : read (.ofMarkers markers) = true ↔ flag ∈ markers := by
  rw [of_markers_reads read (· = flag) hstart hstep]
  simp

/-- Calls are denied to everyone exactly by a list that says so. -/
theorem deny_all_of_markers (markers : List Marker) :
    (Policy.ofMarkers markers).denyAll = true ↔ .denyAll ∈ markers := by
  refine flag_of_markers Policy.denyAll .denyAll rfl (fun policy marker ↦ ?_) markers
  cases marker <;> simp [Policy.withMarker, Policy.allowRoles]

/-- Calls are open to anyone exactly by a list that says so. -/
theorem anonymous_allowed_of_markers (markers : List Marker) :
    (Policy.ofMarkers markers).anonymousAllowed = true ↔ .anonymousAllowed ∈ markers := by
  refine flag_of_markers Policy.anonymousAllowed .anonymousAllowed rfl (fun policy marker ↦ ?_)
    markers
  cases marker <;> simp [Policy.withMarker, Policy.allowRoles]

/-- Calls are open to every known caller exactly by a list that says so. -/
theorem permit_all_of_markers (markers : List Marker) :
    (Policy.ofMarkers markers).permitAll = true ↔ .permitAll ∈ markers := by
  refine flag_of_markers Policy.permitAll .permitAll rfl (fun policy marker ↦ ?_) markers
  cases marker <;> simp [Policy.withMarker, Policy.allowRoles]

/-- Some marker of a list grants a role that is held exactly when one names such a role. -/
theorem exists_grants_iff (markers : List Marker) (holds : String → Bool) :
    (∃ marker ∈ markers, marker.grants holds = true) ↔
      ∃ roles, .rolesAllowed roles ∈ markers ∧ ∃ role ∈ roles, holds role = true := by
  constructor
  · rintro ⟨marker, hmem, hgrants⟩
    cases marker with
    | rolesAllowed roles => exact ⟨roles, hmem, List.any_eq_true.mp hgrants⟩
    | denyAll => cases hgrants
    | anonymousAllowed => cases hgrants
    | permitAll => cases hgrants
  · rintro ⟨roles, hmem, hheld⟩
    exact ⟨.rolesAllowed roles, hmem, List.any_eq_true.mpr hheld⟩

/-- A role is granted exactly by a list with a marker that names it. -/
theorem grants_of_markers (markers : List Marker) (holds : String → Bool) :
    (Policy.ofMarkers markers).grants holds = true ↔
      ∃ roles, .rolesAllowed roles ∈ markers ∧ ∃ role ∈ roles, holds role = true := by
  rw [of_markers_reads (fun policy ↦ policy.grants holds) (fun marker ↦ marker.grants holds) rfl
    (grants_with_marker holds), List.any_eq_true, exists_grants_iff]

/-- Every marker makes a policy specified, one that names no role included. -/
theorem is_specified_of_markers (markers : List Marker) :
    (Policy.ofMarkers markers).isSpecified = true ↔ markers ≠ [] := by
  rw [of_markers_reads Policy.isSpecified (fun _ ↦ true) rfl]
  · cases markers <;> simp
  · intro policy marker
    cases marker <;> simp [Policy.withMarker, Policy.allowRoles, Policy.isSpecified]

/-! ## What is judged -/

/-- The chain of tests as one condition. -/
theorem judge_allowed_iff (policy : Policy) (identity : Identity) (holds : String → Bool) :
    (policy.judge identity holds).allowed = true ↔
      ¬ policy.denyAll = true ∧
        (policy.anonymousAllowed = true ∨
          (∃ name, identity = .authenticated name) ∧
            (policy.permitAll = true ∨ policy.grants holds = true)) := by
  unfold Policy.judge Policy.grants
  cases policy.denyAll with
  | true => simp
  | false =>
      cases policy.anonymousAllowed with
      | true => simp
      | false =>
          cases identity with
          | anonymous => simp [Identity.isAnonymous]
          | authenticated name =>
              cases policy.permitAll with
              | true => simp [Identity.isAnonymous]
              | false => cases policy.roles <;> simp [Identity.isAnonymous]

/-- A scope judges a caller by its markers. -/
theorem judge_of_markers (markers : List Marker) (identity : Identity) (holds : String → Bool) :
    ((Policy.ofMarkers markers).judge identity holds).allowed = true ↔
      Admits markers identity holds := by
  rw [judge_allowed_iff, deny_all_of_markers, anonymous_allowed_of_markers, permit_all_of_markers,
    grants_of_markers]
  rfl

/-- No caller is let in without a marker. -/
theorem not_admits_nil (identity : Identity) (holds : String → Bool) :
    ¬ Admits [] identity holds := by
  simp [Admits]

/-- A type judges a caller by its markers. -/
theorem judge_type_of_markers (markers : List Marker) (identity : Identity)
    (holds : String → Bool) :
    (judgeType (.ofMarkers markers) identity holds).allowed = true ↔
      Admits markers identity holds := by
  unfold judgeType
  split
  · exact judge_of_markers markers identity holds
  · rename_i hunspecified
    have hnil : markers = [] := by
      simpa [is_specified_of_markers] using hunspecified
    subst hnil
    simp [not_admits_nil]

/-- A call is judged by the markers that decide about it. -/
theorem judge_target_of_markers (method type : List Marker) (identity : Identity)
    (holds : String → Bool) :
    (judgeTarget ⟨.ofMarkers method, .ofMarkers type⟩ identity holds).allowed = true ↔
      Admits (decidingMarkers method type) identity holds := by
  unfold judgeTarget decidingMarkers
  dsimp only
  split
  · rename_i hspecified
    rw [if_neg ((is_specified_of_markers method).mp hspecified)]
    exact judge_of_markers method identity holds
  · rename_i hunspecified
    rw [if_pos (by simpa [is_specified_of_markers] using hunspecified)]
    exact judge_type_of_markers type identity holds

namespace Checker

/-- The decision is to allow exactly when the verdict is. -/
theorem decision_eq_allowed_iff (checker : Checker) (verdict : Verdict) :
    checker.decision verdict = .allowed ↔ verdict.allowed = true := by
  unfold decision
  split <;> simp_all

/-- The decision is otherwise to deny, with the message of the checker's mode. -/
theorem decision_eq_denied_iff (checker : Checker) (verdict : Verdict) :
    checker.decision verdict = .denied checker.deniedMessage ↔ ¬ verdict.allowed = true := by
  unfold decision
  split <;> simp_all

/-- Verdicts with the same outcome lead to the same decision. -/
theorem decision_congr (checker : Checker) {first second : Verdict}
    (h : first.allowed = second.allowed) : checker.decision first = checker.decision second := by
  rw [decision, decision, h]

/-- The decision keeps the outcome of the verdict. -/
theorem decision_is_allowed (checker : Checker) (verdict : Verdict) :
    (checker.decision verdict).isAllowed = verdict.allowed := by
  unfold decision
  cases verdict.allowed <;> rfl

/-- The decision about a call reads its markers as a set: those of the method decide, or for want of
any those of its type, and they let a caller in exactly as `Admits` says. A type as a whole is
decided about like a method without markers, and the plain answers agree with the decisions. Hence
it does not matter how the markers are arranged, nor with which checker the decision is made, except
for the message of a denial. -/
theorem decide_of_markers (checker : Checker) (identity : Identity) (holds : String → Bool) :
    (∀ method type : List Marker,
      ((checker.decide ⟨.ofMarkers method, .ofMarkers type⟩ identity holds).1 = .allowed ↔
        Admits (decidingMarkers method type) identity holds) ∧
      ((checker.decide ⟨.ofMarkers method, .ofMarkers type⟩ identity holds).1 =
          .denied checker.deniedMessage ↔
        ¬ Admits (decidingMarkers method type) identity holds) ∧
      (judgeTarget ⟨.ofMarkers method, .ofMarkers type⟩ identity holds).allowed =
        (checker.decide ⟨.ofMarkers method, .ofMarkers type⟩ identity holds).1.isAllowed) ∧
    (∀ type : List Marker,
      checker.decideType (.ofMarkers type) identity holds =
        checker.decide ⟨.ofMarkers [], .ofMarkers type⟩ identity holds ∧
      (judgeType (.ofMarkers type) identity holds).allowed =
        (checker.decide ⟨.ofMarkers [], .ofMarkers type⟩ identity holds).1.isAllowed) ∧
    (checker.decide ⟨.ofMarkers [], .ofMarkers []⟩ identity holds).1 =
      .denied checker.deniedMessage ∧
    (∀ (other : Checker) (method method' type type' : List Marker),
      Rearranged method method' → Rearranged type type' →
      (other.decide ⟨.ofMarkers method', .ofMarkers type'⟩ identity holds).1.isAllowed =
        (checker.decide ⟨.ofMarkers method, .ofMarkers type⟩ identity holds).1.isAllowed ∧
      (other.devMode = checker.devMode →
        (other.decide ⟨.ofMarkers method', .ofMarkers type'⟩ identity holds).1 =
          (checker.decide ⟨.ofMarkers method, .ofMarkers type⟩ identity holds).1)) := by
  refine ⟨?_, ?_, ?_, ?_⟩
  · intro method type
    simp only [decide, decision_eq_allowed_iff, decision_eq_denied_iff, decision_is_allowed,
      judge_target_of_markers, and_self]
  · intro type
    exact ⟨rfl, (decision_is_allowed checker _).symm⟩
  · simp only [decide, decision_eq_denied_iff, judge_target_of_markers]
    exact not_admits_nil identity holds
  · intro other method method' type type' hmethod htype
    have hverdict : (judgeTarget ⟨.ofMarkers method', .ofMarkers type'⟩ identity holds).allowed =
        (judgeTarget ⟨.ofMarkers method, .ofMarkers type⟩ identity holds).allowed := by
      rw [Bool.eq_iff_iff, judge_target_of_markers, judge_target_of_markers]
      exact ((hmethod.deciding htype).admits_iff identity holds).symm
    refine ⟨?_, fun hmode ↦ ?_⟩
    · simp only [decide, decision_is_allowed, hverdict]
    · simp only [decide, decision, deniedMessage, hverdict, hmode]

/-- A holder of the second of two roles is let in by one marker that names both as by two markers
that name one each, in whatever order, and by checkers of both modes. -/
theorem split_roles_decided_alike :
    Rearranged [.rolesAllowed ["ADMIN", "AUDITOR"]]
      [.rolesAllowed ["AUDITOR"], .rolesAllowed ["ADMIN"]] ∧
    Rearranged [.denyAll] [.denyAll, .denyAll] ∧
    ((Checker.standard true).decide
      ⟨.ofMarkers [.rolesAllowed ["AUDITOR"], .rolesAllowed ["ADMIN"]],
        .ofMarkers [.denyAll, .denyAll]⟩ (.authenticated "ada") (· == "AUDITOR")).1.isAllowed =
      ((Checker.standard false).decide
        ⟨.ofMarkers [.rolesAllowed ["ADMIN", "AUDITOR"]], .ofMarkers [.denyAll]⟩
        (.authenticated "ada") (· == "AUDITOR")).1.isAllowed ∧
    ((Checker.standard false).decide
        ⟨.ofMarkers [.rolesAllowed ["ADMIN", "AUDITOR"]], .ofMarkers [.denyAll]⟩
        (.authenticated "ada") (· == "AUDITOR")).1 = .allowed := by
  have hsplit : Rearranged [.rolesAllowed ["ADMIN", "AUDITOR"]]
      [.rolesAllowed ["AUDITOR"], .rolesAllowed ["ADMIN"]] :=
    .trans (@Rearranged.split ["ADMIN"] ["AUDITOR"] []) (.permuted (.swap _ _ _))
  have hrepeated : Rearranged [.denyAll] [.denyAll, .denyAll] := .repeated (by simp)
  obtain ⟨hlists, _, _, harranged⟩ :=
    decide_of_markers (.standard false) (.authenticated "ada") (· == "AUDITOR")
  exact ⟨hsplit, hrepeated, (harranged _ _ _ _ _ hsplit hrepeated).1,
    (hlists _ _).1.mpr (by simp [Admits, decidingMarkers])⟩

end Checker

end EndpointGuard
