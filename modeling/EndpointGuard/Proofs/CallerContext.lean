import EndpointGuard.Proofs.Mediation

/-!
# The caller that a service acts for

The gate decides about the user that is known for a request, and the service behind it reads what is
attached to the request. `ActsFor` says that all a service can read of the caller follows from one
user. Read `acts_for_known_iff` first: the service acts for the user that the gate decided about,
unless the gate knows none and another user was attached before.
-/

namespace EndpointGuard

/-- All that a service reads of the caller follows from one user: the user itself, its identity, the
authenticated user, the roles, and the decisions of a checker about the request. -/
structure ActsFor (checker : Checker) (user : Option User) (context : RequestContext) : Prop where
  user_eq : context.user = user
  identity_eq : context.identity = .ofUser? user
  authenticated_iff : ∀ known,
    context.authenticatedUser = .ok known ↔ user = some known ∧ known.isAnonymous = false
  unauthorized_iff : context.authenticatedUser = .error .unauthorized ↔
    ∀ known, user = some known → known.isAnonymous = true
  holds_eq : ∀ role, context.holdsRole role = (RoleHolder.ofUser? user checker.rolePrefix).holds role
  decide_eq : ∀ target, checker.decideRequest target context = checker.decideFor target user

/-- A service acts for the user that is attached, where the prefix of the checker is attached too. -/
theorem acts_for_attached (checker : Checker) (user : Option User) :
    ActsFor checker user ⟨user, some checker.rolePrefix⟩ where
  user_eq := rfl
  identity_eq := rfl
  authenticated_iff := by
    intro known
    cases user with
    | none => simp [RequestContext.authenticatedUser]
    | some found =>
        cases hfound : found.isAnonymous with
        | true =>
            simp only [RequestContext.authenticatedUser, hfound, if_true, reduceCtorEq,
              Option.some.injEq, false_iff]
            rintro ⟨rfl, hknown⟩
            rw [hfound] at hknown
            cases hknown
        | false =>
            simp only [RequestContext.authenticatedUser, hfound, Bool.false_eq_true, if_false,
              Except.ok.injEq, Option.some.injEq]
            constructor
            · rintro rfl
              exact ⟨rfl, hfound⟩
            · exact And.left
  unauthorized_iff := by
    cases user with
    | none => simp [RequestContext.authenticatedUser]
    | some found => simp [RequestContext.authenticatedUser]
  holds_eq := fun _ ↦ rfl
  decide_eq := fun _ ↦ rfl

namespace Gate

variable (gate : Gate) (user : Option User) (context : RequestContext)

/-- What a service is handed behind the gate is the user that the gate knows, or else the one that
was attached before. -/
theorem acts_for_known_or_attached :
    ActsFor gate.checker (user.or context.user)
      (context.attach user gate.checker.rolePrefix) :=
  acts_for_attached gate.checker (user.or context.user)

/-- Behind two gates in a row, the user that the inner gate knows counts, or else the one that the
outer gate knows. -/
theorem attach_attach (outer inner : Option User) (outerPrefix innerPrefix : RolePrefix) :
    (context.attach outer outerPrefix).attach inner innerPrefix =
      context.attach (inner.or outer) innerPrefix := by
  simp [RequestContext.attach, Option.or_assoc]

/-- The service acts for the user that the gate decides about exactly when the gate knows one or
none was attached before. -/
theorem acts_for_known_iff :
    ActsFor gate.checker user (context.attach user gate.checker.rolePrefix) ↔
      (user = none → context.user = none) := by
  constructor
  · rintro hacts rfl
    simpa [RequestContext.attach] using hacts.user_eq
  · intro hclear
    have hsame : user.or context.user = user := by
      cases user with
      | none => exact hclear rfl
      | some known => rfl
    have hacts := gate.acts_for_known_or_attached user context
    rwa [hsame] at hacts

/-- A caller that the gate does not know, on a request to which an administrator was attached
before, is let through outside the configured path, and the service decides for the administrator
what the gate denies to the caller. -/
theorem service_acts_for_attached_user :
    let gate : Gate := { registry := .empty, settings := .standard }
    let context : RequestContext := { user := some ((User.named "root").grantRoles ["ADMIN"]) }
    let target : Target := ⟨.unspecified, .ofMarkers [.rolesAllowed ["ADMIN"]]⟩
    (gate.examine ⟨"1", 0⟩ none "/health").refusal = none ∧
      (gate.checker.decideFor target none).1 = .denied "Access denied" ∧
      (gate.checker.decideRequest target (context.attach none gate.checker.rolePrefix)).1 =
        .allowed ∧
      ¬ ActsFor gate.checker none (context.attach none gate.checker.rolePrefix) := by
  intro gate context target
  refine ⟨by decide +kernel, by decide +kernel, by decide +kernel, ?_⟩
  rw [acts_for_known_iff]
  exact fun hclear ↦ absurd (hclear rfl) (by simp [context])

end Gate

end EndpointGuard
