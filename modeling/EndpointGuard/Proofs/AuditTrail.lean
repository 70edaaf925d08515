import EndpointGuard.Proofs.Mediation

/-!
# What the audit trail tells

The events that a request publishes, against what became of the request. `Gate.Publishes` says which
events the handlers of an enabled logger are handed, whatever the handlers are, and `Gate.Tells` what
it is for an event to tell the truth about a request. Read `audit_trail_truthful` first: a request
outside the configured path publishes nothing, every other one publishes one event that tells the
truth about it, and the logger makes no difference to the answers of a run of requests.
-/

namespace EndpointGuard

/-- What handlers do when events are handed to all of them, one event after the other, on top of
what was done before. -/
def Publication.tell (handlers : List EventHandler) (done : Publication)
    (events : List SecurityEvent) : Publication :=
  events.foldl
    (fun done event ↦ handlers.foldl (fun done handler ↦ handler.handle event done) done) done

/-- A handler that reports is handed every event once, in order. -/
theorem Publication.tell_reports (describe : SecurityEvent → String) (done : Publication)
    (events : List SecurityEvent) :
    (Publication.tell [.report describe] done events).reports =
      done.reports ++ events.map describe := by
  induction events generalizing done with
  | nil => simp [tell]
  | cons event rest ih =>
      have hstep : tell [.report describe] done (event :: rest) =
          tell [.report describe] { done with reports := done.reports ++ [describe event] } rest :=
        rfl
      rw [hstep, ih, List.map_cons, List.append_assoc, List.singleton_append]

/-- The name of the principal is that of the user, unless the user is nobody known. -/
theorem Identity.principal_of_user (user : Option User) :
    (Identity.ofUser? user).principal? =
      (user.filter fun known ↦ !known.isAnonymous).map User.username := by
  cases user with
  | none => rfl
  | some known =>
      cases hknown : known.isAnonymous <;> simp [ofUser?, principal?, Option.filter, hknown]

/-- A request as it arrives at the gate: the stamp of its event, the user that is known for it, its
path, and what is attached to it already. -/
structure Arrival where
  stamp : EventStamp
  user : Option User
  path : String
  context : RequestContext

namespace Gate

/-- The gate with another logger, or with none. -/
def withAudit (gate : Gate) (audit : Option AuditLogger) : Gate :=
  { gate with audit := audit }

/-- A request publishes these events: whatever handlers an enabled logger has, what is left behind
when the request has been served is what they make of the events, and log records beside. -/
def Publishes (gate : Gate) (stamp : EventStamp) (user : Option User) (path : String)
    (events : List SecurityEvent) : Prop :=
  ∃ before after : List LogRecord,
    ∀ (ρ : Type) (handlers : List EventHandler) (store : EventStore) (context : RequestContext)
      (service : RequestContext → ρ),
      let served := (gate.withAudit (some ⟨handlers, true⟩)).serve store stamp user path context
        service
      let told := Publication.tell handlers { store := store } events
      served.store = told.store ∧ served.reports = told.reports ∧
        served.records = before ++ told.records ++ after

/-- An event tells the truth about a request: its kind is what became of the request, its fields are
those of the caller and the path, and its details those of the method that was called. -/
structure Tells (gate : Gate) (stamp : EventStamp) (user : Option User) (path : String)
    (event : SecurityEvent) : Prop where
  granted_iff : ∀ (ρ : Type) (store : EventStore) (context : RequestContext),
    event.kind = .accessGranted ↔ gate.Forwards ρ store stamp user path context
  denied_iff : ∀ (ρ : Type) (store : EventStore) (context : RequestContext),
    event.kind = .accessDenied ↔
      ∃ message, gate.Withholds ρ store stamp user path context (.accessDenied message)
  not_found_iff : ∀ (ρ : Type) (store : EventStore) (context : RequestContext),
    event.kind = .endpointNotFound ↔
      ∃ endpoint method,
        gate.Withholds ρ store stamp user path context (.endpointNotFound endpoint method)
  username_eq : event.username = (user.filter fun known ↦ !known.isAnonymous).map User.username
  segments : ∃ rest endpoint method, CallPath.Below gate.settings.pathPrefix path rest ∧
    CallPath.Cut rest endpoint method ∧
    event.endpoint = some endpoint ∧ event.method = some method
  path_eq : event.path = some path
  error_iff : ∀ (ρ : Type) (store : EventStore) (context : RequestContext) (message : String),
    event.error = some message ↔
      gate.Withholds ρ store stamp user path context (.accessDenied message)
  details_eq : ∀ resolved, gate.Calls path resolved →
    event.details.entries = [("declaring_type", resolved.declaringType),
      ("scope", if resolved.target.method.isSpecified then "method" else "declaring_type")]
  details_nil : (¬ ∃ resolved, gate.Calls path resolved) → event.details.entries = []

/-- Serve requests one after the other, each from the store that the one before left. -/
def serveAllIn {m : Type → Type} [Monad m] {ρ : Type} (gate : Gate) (store : EventStore)
    (service : RequestContext → m ρ) : List Arrival → m (List (Served ρ))
  | [] => pure []
  | arrival :: rest => do
    let served ← gate.serveIn store arrival.stamp arrival.user arrival.path arrival.context service
    let more ← gate.serveAllIn served.store service rest
    pure (served :: more)

/-- The answers of a run of requests. -/
def answersIn {m : Type → Type} [Monad m] {ρ : Type} (gate : Gate) (store : EventStore)
    (service : RequestContext → m ρ) (arrivals : List Arrival) :
    m (List (Except Refusal ρ)) :=
  List.map Served.answer <$> gate.serveAllIn store service arrivals

variable (gate : Gate) (stamp : EventStamp) (user : Option User) (path : String)

/-! ## The published events -/

/-- A request publishes the event of its ruling, if there is one. -/
theorem publishes_event :
    gate.Publishes stamp user path (gate.examine stamp user path).event.toList := by
  refine ⟨(gate.examine stamp user path).recordsBefore,
    (gate.examine stamp user path).recordsAfter, ?_⟩
  intro ρ handlers store context service
  have hserved : ∃ answer, (gate.withAudit (some ⟨handlers, true⟩)).serve store stamp user path
      context service =
        (gate.withAudit (some ⟨handlers, true⟩)).outcome store stamp user path answer := by
    unfold serve serveIn
    cases ((gate.withAudit (some ⟨handlers, true⟩)).examine stamp user path).refusal with
    | none => exact ⟨_, rfl⟩
    | some refusal => exact ⟨_, rfl⟩
  have hpublished : (gate.withAudit (some ⟨handlers, true⟩)).publish store
      (gate.examine stamp user path).event =
        Publication.tell handlers { store := store }
          (gate.examine stamp user path).event.toList := by
    cases (gate.examine stamp user path).event <;> rfl
  obtain ⟨answer, hserved⟩ := hserved
  dsimp only
  rw [hserved, ← hpublished]
  exact ⟨rfl, rfl, rfl⟩

/-- Reports tell lists of events apart. -/
theorem events_eq_of_reports {events others : List SecurityEvent}
    (h : ∀ describe : SecurityEvent → String, events.map describe = others.map describe) :
    events = others := by
  have hlength : events.length = others.length := by
    simpa using congrArg List.length (h fun _ ↦ "")
  refine List.ext_getElem hlength ?_
  intro i hi hother
  -- The report that names the event at this place and no other one.
  have hplace := congrArg (·[i]?) (h fun event ↦ if event = events[i] then "same" else "other")
  simp only [List.getElem?_map, List.getElem?_eq_getElem hi, List.getElem?_eq_getElem hother,
    Option.map_some, if_true, Option.some.injEq] at hplace
  by_contra hne
  rw [if_neg (Ne.symm hne)] at hplace
  exact absurd hplace (by decide)

/-- A request publishes no other list of events. -/
theorem Publishes.unique {gate : Gate} {stamp : EventStamp} {user : Option User} {path : String}
    {events others : List SecurityEvent} (h : gate.Publishes stamp user path events)
    (hother : gate.Publishes stamp user path others) : events = others := by
  obtain ⟨_, _, hserved⟩ := h
  obtain ⟨_, _, hservedOther⟩ := hother
  refine events_eq_of_reports fun describe ↦ ?_
  have hreports := (hserved Unit [.report describe] {} {} fun _ ↦ ()).2.1
  rw [(hservedOther Unit [.report describe] {} {} fun _ ↦ ()).2.1] at hreports
  simpa [Publication.tell_reports] using hreports.symm

/-! ## The event of a ruling -/

/-- The event of a request that calls nothing that exists. -/
def unknownEvent (stamp : EventStamp) (user : Option User) (path endpoint method : String) :
    SecurityEvent :=
  (SecurityEvent.endpointNotFound stamp (Identity.ofUser? user).principal? endpoint method).set
    (.path path)

/-- The event of a ruling follows the class of the path, the registry and the decision. -/
theorem examine_event :
    (gate.examine stamp user path).event =
      match CallPath.classify path gate.settings.pathPrefix with
      | .outside => none
      | .malformed endpoint method => some (unknownEvent stamp user path endpoint method)
      | .call endpoint method =>
        match gate.registry.resolve endpoint method with
        | none => some (unknownEvent stamp user path endpoint method)
        | some resolved =>
          some (callEvent stamp (.ofUser? user) path endpoint method resolved
            (gate.decisionOn resolved user)) := by
  unfold examine
  cases CallPath.classify path gate.settings.pathPrefix with
  | outside => rfl
  | malformed endpoint method => rfl
  | call endpoint method =>
      cases hresolve : gate.registry.resolve endpoint method with
      | none => simp only [hresolve]; rfl
      | some resolved => simp only [hresolve]; rfl

/-- The event of a call that nothing answers to tells the truth. -/
theorem tells_unknown {endpoint method : String}
    (hbelow : ∃ rest, CallPath.Below gate.settings.pathPrefix path rest ∧
      CallPath.Cut rest endpoint method)
    (hrefusal : (gate.examine stamp user path).refusal = some (.endpointNotFound endpoint method)) :
    gate.Tells stamp user path (unknownEvent stamp user path endpoint method) := by
  have hnone : ¬ ∃ resolved, gate.Calls path resolved :=
    ((gate.refusal_eq_not_found_iff stamp user path endpoint method).mp hrefusal).2
  obtain ⟨rest, hbelow, hcut⟩ := hbelow
  have hkind : (unknownEvent stamp user path endpoint method).kind = .endpointNotFound := rfl
  have herror : (unknownEvent stamp user path endpoint method).error = none := rfl
  exact {
    granted_iff := by
      intro ρ store context
      rw [hkind, forwards_iff_refusal, hrefusal]
      simp
    denied_iff := by
      intro ρ store context
      simp only [hkind, withholds_iff_refusal, hrefusal]
      simp
    not_found_iff := by
      intro ρ store context
      simp only [hkind, withholds_iff_refusal, hrefusal]
      simp
    username_eq := Identity.principal_of_user user
    segments := ⟨rest, endpoint, method, hbelow, hcut, rfl, rfl⟩
    path_eq := rfl
    error_iff := by
      intro ρ store context message
      rw [herror, withholds_iff_refusal, hrefusal]
      simp
    details_eq := fun resolved hcalls ↦ absurd ⟨resolved, hcalls⟩ hnone
    details_nil := fun _ ↦ rfl }

/-- The fields of the event of a decided call. -/
theorem call_event_fields (identity : Identity) (endpoint method : String)
    (resolved : ResolvedMethod) (decision : Decision) :
    let event := callEvent stamp identity path endpoint method resolved decision
    event.kind = (if decision = .allowed then .accessGranted else .accessDenied) ∧
      event.username = identity.principal? ∧ event.endpoint = some endpoint ∧
      event.method = some method ∧ event.path = some path ∧ event.error = decision.message? ∧
      event.details.entries = [("declaring_type", resolved.declaringType),
        ("scope", decidingScope resolved.target)] := by
  cases decision with
  | allowed => exact ⟨rfl, rfl, rfl, rfl, rfl, rfl, rfl⟩
  | denied reason => exact ⟨rfl, rfl, rfl, rfl, rfl, rfl, rfl⟩

/-- The event of a decided call tells the truth. -/
theorem tells_call {endpoint method : String} {resolved : ResolvedMethod}
    (hcall : CallPath.IsCall gate.settings.pathPrefix path endpoint method)
    (hresolve : gate.registry.resolve endpoint method = some resolved) :
    gate.Tells stamp user path
      (callEvent stamp (.ofUser? user) path endpoint method resolved
        (gate.decisionOn resolved user)) := by
  have hclass := CallPath.classify_call_iff.mpr hcall
  have hcalls : gate.Calls path resolved := ⟨endpoint, method, hcall, hresolve⟩
  have hrefusal : (gate.examine stamp user path).refusal =
      (gate.decisionOn resolved user).refusal? := by
    rw [examine_refusal, hclass]
    simp only [hresolve]
  obtain ⟨rest, hbelow, hcut⟩ := hcall.below_cut
  obtain ⟨hkind, husername, hendpoint, hmethod, hpath, herror, hdetails⟩ :=
    call_event_fields stamp path (.ofUser? user) endpoint method resolved
      (gate.decisionOn resolved user)
  exact {
    granted_iff := by
      intro ρ store context
      rw [hkind, forwards_iff_refusal, hrefusal]
      cases gate.decisionOn resolved user <;> simp [Decision.refusal?]
    denied_iff := by
      intro ρ store context
      simp only [hkind, withholds_iff_refusal, hrefusal]
      cases gate.decisionOn resolved user <;> simp [Decision.refusal?]
    not_found_iff := by
      intro ρ store context
      simp only [hkind, withholds_iff_refusal, hrefusal]
      cases gate.decisionOn resolved user <;> simp [Decision.refusal?]
    username_eq := husername.trans (Identity.principal_of_user user)
    segments := ⟨rest, endpoint, method, hbelow, hcut, hendpoint, hmethod⟩
    path_eq := hpath
    error_iff := by
      intro ρ store context message
      rw [herror, withholds_iff_refusal, hrefusal]
      cases gate.decisionOn resolved user <;> simp [Decision.refusal?, Decision.message?]
    details_eq := by
      intro other hother
      have hsame : gate.registry.resolve endpoint method = some other :=
        (gate.calls_iff_of_call path hclass other).mp hother
      rw [hresolve] at hsame
      cases hsame
      exact hdetails
    details_nil := fun hnone ↦ absurd ⟨resolved, hcalls⟩ hnone }

/-- Under the configured path every request has an event, and it tells the truth. -/
theorem examine_event_cases :
    (gate.examine stamp user path).event = none ∧
        ¬ CallPath.Under gate.settings.pathPrefix path ∨
      ∃ event, (gate.examine stamp user path).event = some event ∧
        CallPath.Under gate.settings.pathPrefix path ∧ gate.Tells stamp user path event := by
  have hrefusal := gate.examine_refusal stamp user path
  rw [examine_event]
  cases hclass : CallPath.classify path gate.settings.pathPrefix with
  | outside => exact Or.inl ⟨rfl, CallPath.classify_outside_iff.mp hclass⟩
  | malformed endpoint method =>
      have hmalformed := CallPath.classify_malformed_iff.mp hclass
      rw [hclass] at hrefusal
      exact Or.inr ⟨_, rfl, hmalformed.under, gate.tells_unknown stamp user path
        (CallPath.below_cut_iff.mpr (Or.inr hmalformed)) hrefusal⟩
  | call endpoint method =>
      have hcall := CallPath.classify_call_iff.mp hclass
      rw [hclass] at hrefusal
      cases hresolve : gate.registry.resolve endpoint method with
      | none =>
          simp only [hresolve] at hrefusal ⊢
          exact Or.inr ⟨_, rfl, hcall.under, gate.tells_unknown stamp user path
            (CallPath.below_cut_iff.mpr (Or.inl hcall)) hrefusal⟩
      | some resolved =>
          simp only [hresolve]
          exact Or.inr ⟨_, rfl, hcall.under, gate.tells_call stamp user path hcall hresolve⟩

/-! ## Runs of requests -/

/-- The next request is answered alike whatever the logger is, and so is the run that follows if it
is answered alike from every store. -/
theorem answers_cons {m : Type → Type} [Monad m] [LawfulMonad m] {ρ : Type}
    (audit : Option AuditLogger) (store : EventStore) (service : RequestContext → m ρ)
    (arrival : Arrival) (rest : List Arrival) {answers : m (List (Except Refusal ρ))}
    (hrest : ∀ store, (gate.withAudit audit).answersIn store service rest = answers) :
    (gate.withAudit audit).answersIn store service (arrival :: rest) =
      match (gate.examine arrival.stamp arrival.user arrival.path).refusal with
      | some refusal => List.cons (.error refusal) <$> answers
      | none =>
        service (arrival.context.attach arrival.user gate.checker.rolePrefix) >>=
          fun reply ↦ List.cons (.ok reply) <$> answers := by
  have hserve : (gate.withAudit audit).serveIn store arrival.stamp arrival.user arrival.path
      arrival.context service =
        match (gate.examine arrival.stamp arrival.user arrival.path).refusal with
        | some refusal =>
          pure ((gate.withAudit audit).outcome store arrival.stamp arrival.user arrival.path
            (.error refusal))
        | none =>
          service (arrival.context.attach arrival.user gate.checker.rolePrefix) >>=
            fun reply ↦ pure ((gate.withAudit audit).outcome store arrival.stamp arrival.user
              arrival.path (.ok reply)) := rfl
  have hmore : ∀ served : Served ρ,
      List.map Served.answer <$> ((gate.withAudit audit).serveAllIn served.store service rest >>=
        fun more ↦ pure (served :: more)) = List.cons served.answer <$> answers := by
    intro served
    rw [← hrest served.store, answersIn]
    simp
  rw [answersIn, serveAllIn, hserve]
  cases (gate.examine arrival.stamp arrival.user arrival.path).refusal with
  | some refusal =>
      simp only [pure_bind]
      exact hmore _
  | none =>
      dsimp only
      rw [bind_assoc, map_bind]
      refine bind_congr fun reply ↦ ?_
      rw [pure_bind]
      exact hmore _

/-- A run of requests is answered alike whatever the loggers and the stores are. -/
theorem answers_with_audit {m : Type → Type} [Monad m] [LawfulMonad m] {ρ : Type}
    (audit other : Option AuditLogger) (store otherStore : EventStore)
    (service : RequestContext → m ρ) (arrivals : List Arrival) :
    (gate.withAudit audit).answersIn store service arrivals =
      (gate.withAudit other).answersIn otherStore service arrivals := by
  induction arrivals generalizing store otherStore with
  | nil => rfl
  | cons arrival rest ih =>
      rw [gate.answers_cons audit store service arrival rest fun store ↦ ih store otherStore,
        gate.answers_cons other otherStore service arrival rest
          fun store ↦ (ih otherStore store).symm.trans (ih otherStore otherStore)]

/-- The audit trail tells the truth. A request publishes no event exactly outside the configured
path; every other one publishes exactly one, and it tells what became of the request, who called
what, and which policy decided. Whether there is a logger, whether it is enabled, and which handlers
it has, makes no difference to the answers of any run of requests, nor to what the service behind
the gate is asked. -/
theorem audit_trail_truthful :
    (gate.Publishes stamp user path [] ↔ ¬ CallPath.Under gate.settings.pathPrefix path) ∧
    ((∃ event, gate.Publishes stamp user path [event] ∧
        ∀ audit, (gate.withAudit audit).Tells stamp user path event) ↔
      CallPath.Under gate.settings.pathPrefix path) ∧
    (∀ (m : Type → Type) [Monad m] [LawfulMonad m] (ρ : Type) (audit other : Option AuditLogger)
      (store otherStore : EventStore) (service : RequestContext → m ρ) (arrivals : List Arrival),
      (gate.withAudit audit).answersIn store service arrivals =
        (gate.withAudit other).answersIn otherStore service arrivals) := by
  have hpublishes := gate.publishes_event stamp user path
  refine ⟨?_, ?_, ?_⟩
  · rcases gate.examine_event_cases stamp user path with ⟨hnone, hout⟩ | ⟨event, hsome, hunder, _⟩
    · rw [hnone] at hpublishes
      exact iff_of_true hpublishes hout
    · rw [hsome] at hpublishes
      refine iff_of_false (fun hempty ↦ ?_) (not_not_intro hunder)
      cases hempty.unique hpublishes
  · rcases gate.examine_event_cases stamp user path with ⟨hnone, hout⟩ | ⟨event, hsome, hunder, _⟩
    · rw [hnone] at hpublishes
      refine iff_of_false ?_ hout
      rintro ⟨event, hevent, _⟩
      cases hevent.unique hpublishes
    · rw [hsome] at hpublishes
      refine iff_of_true ⟨event, hpublishes, fun audit ↦ ?_⟩ hunder
      -- The ruling does not look at the logger.
      have hsame : ((gate.withAudit audit).examine stamp user path).event = some event := hsome
      obtain ⟨hnone, _⟩ | ⟨told, htold, _, htells⟩ :=
        (gate.withAudit audit).examine_event_cases stamp user path
      · rw [hnone] at hsame
        cases hsame
      · rw [hsame] at htold
        cases htold
        exact htells
  · intro m _ _ ρ audit other store otherStore service arrivals
    exact gate.answers_with_audit audit other store otherStore service arrivals

/-- A type whose one method is closed to everyone. -/
def closedDesk : TypeDefinition where
  own := {
    typeName := "app::Desk"
    simpleName := "Desk"
    isEndpoint := true
    policy := .ofMarkers [.denyAll]
    methods := [⟨"open", .unspecified⟩] }

/-- A gate with this type behind it. -/
def closedDeskGate : Gate where
  registry := Registry.empty.enterAll [closedDesk]
  settings := .standard

/-- A page elsewhere leaves nothing in the trail, a call of the closed method leaves its denial, and
both are answered alike with a log and without one, by a service that counts its calls. -/
theorem closed_desk_trail :
    closedDeskGate.Publishes ⟨"1", 0⟩ none "/health" [] ∧
    (∃ event, closedDeskGate.Publishes ⟨"2", 0⟩ (some (.named "ada")) "/connect/desk/open" [event] ∧
      event.kind = .accessDenied ∧ event.username = some "ada" ∧
      event.details.entries = [("declaring_type", "app::Desk"), ("scope", "declaring_type")]) ∧
    LawfulMonad (StateM Nat) ∧
    ∀ service : RequestContext → StateM Nat Nat,
      (closedDeskGate.withAudit none).answersIn {} service
          [⟨⟨"1", 0⟩, none, "/health", {}⟩, ⟨⟨"2", 0⟩, none, "/connect/desk/open", {}⟩] =
        (closedDeskGate.withAudit (some .toLog)).answersIn {} service
          [⟨⟨"1", 0⟩, none, "/health", {}⟩, ⟨⟨"2", 0⟩, none, "/connect/desk/open", {}⟩] := by
  obtain ⟨houtside, _, hanswers⟩ := audit_trail_truthful closedDeskGate ⟨"1", 0⟩ none "/health"
  obtain ⟨_, hunder, _⟩ :=
    audit_trail_truthful closedDeskGate ⟨"2", 0⟩ (some (.named "ada")) "/connect/desk/open"
  have hcall : CallPath.IsCall closedDeskGate.settings.pathPrefix "/connect/desk/open" "desk" "open" :=
    CallPath.classify_call_iff.mp (by decide +kernel)
  obtain ⟨event, hevent, htells⟩ := hunder.mpr hcall.under
  refine ⟨houtside.mpr (CallPath.classify_outside_iff.mp (by decide +kernel)),
    ⟨event, hevent, ?_, (htells none).username_eq, ?_⟩, inferInstance, ?_⟩
  · refine ((htells none).denied_iff Unit {} {}).mpr ⟨"Access denied", ?_⟩
    rw [withholds_iff_refusal]
    decide +kernel
  · refine (htells none).details_eq
      ⟨"Desk", "open", "app::Desk", ⟨.unspecified, .ofMarkers [.denyAll]⟩⟩ ⟨"desk", "open", hcall, ?_⟩
    decide +kernel
  · exact fun service ↦ hanswers (StateM Nat) Nat none (some .toLog) {} {} service _

end Gate

end EndpointGuard
