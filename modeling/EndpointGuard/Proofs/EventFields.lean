import EndpointGuard.Audit.Event
import EndpointGuard.Proofs.KeyedList

/-!
# The fields of an event

An event is its stamp, its kind, its severity and the values of its slots, one slot for each field
that can be set and one for each key of its details. `SecurityEvent.Same` compares events by these,
so that the order in which the details are listed does not count. `value_set_all` says what a slot
holds after any number of settings: the value of the last one.
-/

namespace EndpointGuard

/-- What holds one text of an event: a field, or a key of the details. -/
inductive EventSlot where
  | username
  | endpoint
  | method
  | path
  | error
  | detail (key : String)
deriving DecidableEq

/-- The slot that a setting fills. -/
def EventField.slot : EventField → EventSlot
  | .username _ => .username
  | .endpoint _ => .endpoint
  | .method _ => .method
  | .path _ => .path
  | .error _ => .error
  | .detail key _ => .detail key

/-- The value that a setting fills its slot with. -/
def EventField.value : EventField → String
  | .username value => value
  | .endpoint value => value
  | .method value => value
  | .path value => value
  | .error value => value
  | .detail _ value => value

/-- The value that the last of the settings of a slot fills it with. -/
def lastValue (slot : EventSlot) (fields : List EventField) : Option String :=
  (fields.reverse.find? fun field ↦ field.slot = slot).map EventField.value

namespace SecurityEvent

/-- The text that a slot holds. -/
def value? (event : SecurityEvent) : EventSlot → Option String
  | .username => event.username
  | .endpoint => event.endpoint
  | .method => event.method
  | .path => event.path
  | .error => event.error
  | .detail key => event.details.get? key

/-- Two events have the same stamp, kind and severity, and the same value in every slot. Their
details may be listed in different orders. -/
structure Same (first second : SecurityEvent) : Prop where
  stamp : first.stamp = second.stamp
  kind : first.kind = second.kind
  severity : first.severity = second.severity
  value : ∀ slot, first.value? slot = second.value? slot

/-- A setting fills its slot and no other. -/
theorem value_set (event : SecurityEvent) (field : EventField) (slot : EventSlot) :
    (event.set field).value? slot =
      if field.slot = slot then some field.value else event.value? slot := by
  cases field with
  | detail key value =>
      cases slot with
      | detail other =>
          show (event.details.insert key value).get? other = _
          simp only [KeyedList.get_insert, EventField.slot, EventSlot.detail.injEq,
            EventField.value, value?]
      | _ => rfl
  | _ => cases slot <;> rfl

/-- After settings a slot holds the value of the last one that fills it, or else what it held. -/
theorem value_set_all (event : SecurityEvent) (fields : List EventField) (slot : EventSlot) :
    (event.setAll fields).value? slot = (lastValue slot fields).or (event.value? slot) := by
  induction fields generalizing event with
  | nil => rfl
  | cons field rest ih =>
      have hstep : event.setAll (field :: rest) = (event.set field).setAll rest := rfl
      rw [hstep, ih, value_set]
      simp only [lastValue, List.reverse_cons, List.find?_append, List.find?_singleton]
      -- The first setting only counts when no later one fills its slot.
      cases rest.reverse.find? fun field ↦ field.slot = slot with
      | some later => rfl
      | none =>
          by_cases hslot : field.slot = slot
          · simp [hslot]
          · simp [hslot]

/-- A new event has no value in any slot. -/
theorem value_new (stamp : EventStamp) (kind : EventKind) (slot : EventSlot) :
    (new stamp kind).value? slot = none := by
  cases slot <;> rfl

/-- Settings change neither the stamp nor the kind nor the severity of an event. -/
theorem set_all_fixed (event : SecurityEvent) (fields : List EventField) :
    (event.setAll fields).stamp = event.stamp ∧ (event.setAll fields).kind = event.kind ∧
      (event.setAll fields).severity = event.severity := by
  induction fields generalizing event with
  | nil => exact ⟨rfl, rfl, rfl⟩
  | cons field rest ih =>
      have hstep : (event.set field).stamp = event.stamp ∧ (event.set field).kind = event.kind ∧
          (event.set field).severity = event.severity := by
        cases field <;> exact ⟨rfl, rfl, rfl⟩
      obtain ⟨hstamp, hkind, hseverity⟩ := ih (event.set field)
      exact ⟨hstamp.trans hstep.1, hkind.trans hstep.2.1, hseverity.trans hstep.2.2⟩

/-- Settings that fill every slot with the same value last leave the same event. -/
theorem same_set_all (event : SecurityEvent) {first second : List EventField}
    (h : ∀ slot, lastValue slot first = lastValue slot second) :
    (event.setAll first).Same (event.setAll second) := by
  obtain ⟨hstamp, hkind, hseverity⟩ := event.set_all_fixed first
  obtain ⟨hstampOther, hkindOther, hseverityOther⟩ := event.set_all_fixed second
  exact {
    stamp := hstamp.trans hstampOther.symm
    kind := hkind.trans hkindOther.symm
    severity := hseverity.trans hseverityOther.symm
    value := fun slot ↦ by rw [value_set_all, value_set_all, h slot] }

end SecurityEvent

end EndpointGuard
