import EndpointGuard.Gate
import EndpointGuard.Proofs.CallPath

/-!
# Complete mediation

Which requests the gate hands to the service behind it. The service is a computation in any monad,
so that `Gate.Forwards` can say that it runs once and that its answer comes back unchanged, and
`Gate.Withholds` that it does not run at all. Read `service_reached_iff` first: it describes the
requests that get through, and those that are refused with each answer, by their paths, the registry
and the decision of the checker.
-/

namespace EndpointGuard.Gate

/-- The decision of the checker about a resolved method, for the identity of the user and the roles
that the user holds under the configured prefix. -/
def decisionOn (gate : Gate) (resolved : ResolvedMethod) (user : Option User) : Decision :=
  (gate.checker.decide resolved.target (.ofUser? user)
    (RoleHolder.ofUser? user (.ofText? gate.settings.rolePrefix)).holds).1

/-- The path calls a method that exists. -/
def Calls (gate : Gate) (path : String) (resolved : ResolvedMethod) : Prop :=
  ∃ endpoint method, CallPath.IsCall gate.settings.pathPrefix path endpoint method ∧
    gate.registry.resolve endpoint method = some resolved

/-- The service runs once, with the caller attached to the request, and what it answers is the
answer. -/
def Forwards (gate : Gate) (ρ : Type) (store : EventStore) (stamp : EventStamp)
    (user : Option User) (path : String) (context : RequestContext) : Prop :=
  ∃ served : ρ → Served ρ, (∀ reply, (served reply).answer = .ok reply) ∧
    ∀ (m : Type → Type) [Monad m] (service : RequestContext → m ρ),
      gate.serveIn store stamp user path context service =
        service (context.attach user gate.checker.rolePrefix) >>= fun reply ↦ pure (served reply)

/-- Whatever the service is, it does not run, and the answer is the refusal. -/
def Withholds (gate : Gate) (ρ : Type) (store : EventStore) (stamp : EventStamp)
    (user : Option User) (path : String) (context : RequestContext) (refusal : Refusal) : Prop :=
  ∃ served : Served ρ, served.answer = .error refusal ∧
    ∀ (m : Type → Type) [Monad m] (service : RequestContext → m ρ),
      gate.serveIn store stamp user path context service = pure served

variable {ρ : Type} (gate : Gate) (store : EventStore) (stamp : EventStamp) (user : Option User)
  (path : String) (context : RequestContext)

/-- A service that fails tells apart whether it runs. -/
theorem Withholds.not_forwards {gate : Gate} {store : EventStore} {stamp : EventStamp}
    {user : Option User} {path : String} {context : RequestContext} {refusal : Refusal}
    (h : gate.Withholds ρ store stamp user path context refusal) :
    ¬ gate.Forwards ρ store stamp user path context := by
  rintro ⟨_, _, hforward⟩
  obtain ⟨served, _, hwithhold⟩ := h
  -- In `Option`, to run a service that fails is to fail.
  have hran := hforward Option fun _ ↦ none
  rw [hwithhold Option fun _ ↦ none] at hran
  cases hran

/-- A request is refused in one way only. -/
theorem Withholds.unique {gate : Gate} {store : EventStore} {stamp : EventStamp}
    {user : Option User} {path : String} {context : RequestContext} {refusal other : Refusal}
    (h : gate.Withholds ρ store stamp user path context refusal)
    (hother : gate.Withholds ρ store stamp user path context other) : refusal = other := by
  obtain ⟨served, hanswer, hwithhold⟩ := h
  obtain ⟨servedOther, hanswerOther, hwithholdOther⟩ := hother
  have hsame := (hwithhold Option fun _ ↦ none).symm.trans (hwithholdOther Option fun _ ↦ none)
  cases hsame
  exact Except.error.inj (hanswer.symm.trans hanswerOther)

/-- A ruling without a refusal hands the request on. -/
theorem forwards_of_refusal_none (h : (gate.examine stamp user path).refusal = none) :
    gate.Forwards ρ store stamp user path context := by
  refine ⟨fun reply ↦ gate.outcome store stamp user path (.ok reply), fun _ ↦ rfl, ?_⟩
  intro m _ service
  simp only [serveIn, h]

/-- A ruling with a refusal keeps the service from running. -/
theorem withholds_of_refusal {refusal : Refusal}
    (h : (gate.examine stamp user path).refusal = some refusal) :
    gate.Withholds ρ store stamp user path context refusal := by
  refine ⟨gate.outcome store stamp user path (.error refusal), rfl, ?_⟩
  intro m _ service
  simp only [serveIn, h]

/-- In front of a service without effects, the answer is the refusal of the ruling or what the
service answers. -/
theorem serve_answer (service : RequestContext → ρ) :
    (gate.serve store stamp user path context service).answer =
      match (gate.examine stamp user path).refusal with
      | some refusal => .error refusal
      | none => .ok (service (context.attach user gate.checker.rolePrefix)) := by
  unfold serve serveIn
  cases (gate.examine stamp user path).refusal <;> rfl

/-- The service runs exactly when the ruling has no refusal. -/
theorem forwards_iff_refusal :
    gate.Forwards ρ store stamp user path context ↔
      (gate.examine stamp user path).refusal = none := by
  refine ⟨fun h ↦ ?_, gate.forwards_of_refusal_none store stamp user path context⟩
  cases hrefusal : (gate.examine stamp user path).refusal with
  | none => rfl
  | some refusal =>
      exact absurd h (gate.withholds_of_refusal store stamp user path context hrefusal).not_forwards

/-- A request is refused exactly when the ruling says so. -/
theorem withholds_iff_refusal (refusal : Refusal) :
    gate.Withholds ρ store stamp user path context refusal ↔
      (gate.examine stamp user path).refusal = some refusal := by
  refine ⟨fun h ↦ ?_, gate.withholds_of_refusal store stamp user path context⟩
  cases hrefusal : (gate.examine stamp user path).refusal with
  | none =>
      exact absurd (gate.forwards_of_refusal_none store stamp user path context hrefusal)
        h.not_forwards
  | some other =>
      have hother := @withholds_of_refusal ρ gate store stamp user path context _ hrefusal
      rw [h.unique hother]

/-- A denied decision carries the message of the checker. -/
theorem decision_on_cases (resolved : ResolvedMethod) :
    gate.decisionOn resolved user = .allowed ∨
      gate.decisionOn resolved user = .denied gate.checker.deniedMessage := by
  unfold decisionOn Checker.decide Checker.decision
  dsimp only
  split
  · exact Or.inl rfl
  · exact Or.inr rfl

/-- The refusal of a ruling follows the class of the path, the registry and the decision. -/
theorem examine_refusal :
    (gate.examine stamp user path).refusal =
      match CallPath.classify path gate.settings.pathPrefix with
      | .outside => none
      | .malformed endpoint method => some (.endpointNotFound endpoint method)
      | .call endpoint method =>
        match gate.registry.resolve endpoint method with
        | none => some (.endpointNotFound endpoint method)
        | some resolved => (gate.decisionOn resolved user).refusal? := by
  unfold examine
  cases CallPath.classify path gate.settings.pathPrefix with
  | outside => rfl
  | malformed endpoint method => rfl
  | call endpoint method =>
      cases hresolve : gate.registry.resolve endpoint method with
      | none => simp only [hresolve]; rfl
      | some resolved => simp only [hresolve]; rfl

/-- A path calls what the endpoint and the method of its class resolve to. -/
theorem calls_iff_of_call {endpoint method : String}
    (h : CallPath.classify path gate.settings.pathPrefix = .call endpoint method)
    (resolved : ResolvedMethod) :
    gate.Calls path resolved ↔ gate.registry.resolve endpoint method = some resolved := by
  simp only [Calls, ← CallPath.classify_call_iff, h, CallPath.call.injEq]
  constructor
  · rintro ⟨_, _, ⟨rfl, rfl⟩, hresolve⟩
    exact hresolve
  · intro hresolve
    exact ⟨endpoint, method, ⟨rfl, rfl⟩, hresolve⟩

/-- A path of another class calls nothing. -/
theorem not_calls
    (h : ∀ endpoint method,
      CallPath.classify path gate.settings.pathPrefix ≠ .call endpoint method) :
    ¬ ∃ resolved, gate.Calls path resolved := by
  rintro ⟨_, endpoint, method, hcall, _⟩
  exact h endpoint method (CallPath.classify_call_iff.mpr hcall)

/-- Nothing is refused exactly outside the configured path and on allowed calls. -/
theorem refusal_eq_none_iff :
    (gate.examine stamp user path).refusal = none ↔
      ¬ CallPath.Under gate.settings.pathPrefix path ∨
        ∃ resolved, gate.Calls path resolved ∧ gate.decisionOn resolved user = .allowed := by
  rw [examine_refusal, ← CallPath.classify_outside_iff]
  cases hclass : CallPath.classify path gate.settings.pathPrefix with
  | outside => simp
  | malformed endpoint method =>
      have hnone := gate.not_calls path (by simp [hclass])
      simp only [reduceCtorEq, false_or, false_iff]
      rintro ⟨resolved, hcalls, _⟩
      exact hnone ⟨resolved, hcalls⟩
  | call endpoint method =>
      simp only [gate.calls_iff_of_call path hclass, reduceCtorEq, false_or]
      cases gate.registry.resolve endpoint method with
      | none => simp
      | some resolved =>
          rcases gate.decision_on_cases user resolved with h | h <;> simp [h, Decision.refusal?]

/-- A request is answered that nothing is found exactly when its path is under the configured one
and calls no method that exists. -/
theorem refusal_eq_not_found_iff (endpoint method : String) :
    (gate.examine stamp user path).refusal = some (.endpointNotFound endpoint method) ↔
      (∃ rest, CallPath.Below gate.settings.pathPrefix path rest ∧
        CallPath.Cut rest endpoint method) ∧ ¬ ∃ resolved, gate.Calls path resolved := by
  rw [examine_refusal, CallPath.below_cut_iff, ← CallPath.classify_call_iff,
    ← CallPath.classify_malformed_iff]
  cases hclass : CallPath.classify path gate.settings.pathPrefix with
  | outside => simp
  | malformed first second =>
      have hnone := gate.not_calls path (by simp [hclass])
      simp [hnone]
  | call first second =>
      simp only [gate.calls_iff_of_call path hclass, reduceCtorEq, or_false]
      cases gate.registry.resolve first second with
      | none => simp
      | some resolved =>
          rcases gate.decision_on_cases user resolved with h | h <;> simp [h, Decision.refusal?]

/-- A request is answered that access is denied exactly when its path calls a method that exists and
the decision is not to allow it. -/
theorem refusal_eq_denied_iff (message : String) :
    (gate.examine stamp user path).refusal = some (.accessDenied message) ↔
      message = gate.checker.deniedMessage ∧
        ∃ resolved, gate.Calls path resolved ∧ gate.decisionOn resolved user ≠ .allowed := by
  rw [examine_refusal]
  cases hclass : CallPath.classify path gate.settings.pathPrefix with
  | outside =>
      have hnone := gate.not_calls path (by simp [hclass])
      simp only [reduceCtorEq, false_iff]
      rintro ⟨_, resolved, hcalls, _⟩
      exact hnone ⟨resolved, hcalls⟩
  | malformed endpoint method =>
      have hnone := gate.not_calls path (by simp [hclass])
      simp only [Option.some.injEq, reduceCtorEq, false_iff]
      rintro ⟨_, resolved, hcalls, _⟩
      exact hnone ⟨resolved, hcalls⟩
  | call endpoint method =>
      simp only [gate.calls_iff_of_call path hclass]
      cases gate.registry.resolve endpoint method with
      | none => simp
      | some resolved =>
          rcases gate.decision_on_cases user resolved with h | h
          · simp [h, Decision.refusal?]
          · simp [h, Decision.refusal?, eq_comm]

/-- No ruling asks the caller to sign in. -/
theorem refusal_ne_unauthorized :
    (gate.examine stamp user path).refusal ≠ some .unauthorized := by
  rw [examine_refusal]
  cases CallPath.classify path gate.settings.pathPrefix with
  | outside => simp
  | malformed endpoint method => simp
  | call endpoint method =>
      dsimp only
      cases gate.registry.resolve endpoint method with
      | none => simp
      | some resolved =>
          rcases gate.decision_on_cases user resolved with h | h <;> simp [h, Decision.refusal?]

/-- The service is reached, once, exactly by the paths that are not under the configured one and by
the calls of existing methods that the checker allows. A path under the configured one that calls no
existing method is answered that nothing is found, a call that is not allowed is answered with the
message of the checker, and there is no other answer. -/
theorem service_reached_iff :
    (gate.Forwards ρ store stamp user path context ↔
      ¬ CallPath.Under gate.settings.pathPrefix path ∨
        ∃ resolved, gate.Calls path resolved ∧ gate.decisionOn resolved user = .allowed) ∧
    (∀ endpoint method,
      gate.Withholds ρ store stamp user path context (.endpointNotFound endpoint method) ↔
        (∃ rest, CallPath.Below gate.settings.pathPrefix path rest ∧
          CallPath.Cut rest endpoint method) ∧ ¬ ∃ resolved, gate.Calls path resolved) ∧
    (∀ message,
      gate.Withholds ρ store stamp user path context (.accessDenied message) ↔
        message = gate.checker.deniedMessage ∧
          ∃ resolved, gate.Calls path resolved ∧ gate.decisionOn resolved user ≠ .allowed) ∧
    (gate.Forwards ρ store stamp user path context ∨
      ∃ refusal, gate.Withholds ρ store stamp user path context refusal ∧
        (refusal.response.status = 404 ∧ (∃ endpoint method,
            refusal = .endpointNotFound endpoint method) ∨
          refusal.response.status = 401 ∧ ∃ message, refusal = .accessDenied message)) := by
  refine ⟨?_, ?_, ?_, ?_⟩
  · rw [forwards_iff_refusal, refusal_eq_none_iff]
  · intro endpoint method
    rw [withholds_iff_refusal, refusal_eq_not_found_iff]
  · intro message
    rw [withholds_iff_refusal, refusal_eq_denied_iff]
  · simp only [forwards_iff_refusal, withholds_iff_refusal]
    cases hrefusal : (gate.examine stamp user path).refusal with
    | none => exact Or.inl rfl
    | some refusal =>
        refine Or.inr ⟨refusal, rfl, ?_⟩
        cases refusal with
        | endpointNotFound endpoint method => exact Or.inl ⟨rfl, endpoint, method, rfl⟩
        | accessDenied message => exact Or.inr ⟨rfl, message, rfl⟩
        | unauthorized => exact absurd hrefusal (gate.refusal_ne_unauthorized stamp user path)

end EndpointGuard.Gate
