import EndpointGuard.Decision
import EndpointGuard.Proofs.EventFields
import EndpointGuard.Proofs.JsonText

/-!
# Events and refusals in JSON

What a reader of the JSON texts learns about an event or a refusal. `SecurityEvent.ShownBy` says
what the members of an object tell about an event. Read `events_read_back` first: the text of an
event is read as an object that shows it, in whatever order its details are listed, so that no two
events have one text, and the body of a refusal is read as its message.
-/

namespace EndpointGuard

namespace Json

/-- The value is a string where there is a text, and null exactly where there is none. -/
def IsText (value : Json) (text : Option String) : Prop :=
  (value = .null ↔ text = none) ∧ ∀ given, value = .string given ↔ text = some given

/-- A text that may be missing is written as a string or as null. -/
theorem is_text_of_text (text : Option String) : (ofText? text).IsText text := by
  cases text with
  | none => exact ⟨by simp [ofText?], by simp [ofText?]⟩
  | some text => exact ⟨by simp [ofText?], by simp [ofText?]⟩

/-- A text that may be missing can be read as it was written. -/
theorem fits_of_text (depth : Nat) (text : Option String) : Fits depth (ofText? text) := by
  cases text with
  | none => exact .null depth
  | some text => exact .string depth text

/-- A value stands for one text only. -/
theorem IsText.unique {value : Json} {text other : Option String}
    (h : value.IsText text) (hother : value.IsText other) : text = other := by
  cases text with
  | none => exact (hother.1.mp (h.1.mpr rfl)).symm
  | some given => exact ((hother.2 given).mp ((h.2 given).mpr rfl)).symm

end Json

namespace SecurityEvent

/-- The names of the members that tell about an event. -/
def memberNames : List String :=
  ["id", "timestamp", "event_type", "severity", "username", "endpoint", "method", "path",
    "details", "error"]

/-- The value is an object with exactly the members of an event, and these tell what the event
holds. The details are an object of strings, one for each key. -/
structure ShownBy (event : SecurityEvent) (value : Json) : Prop where
  names : ∃ members, value = .object members ∧ members.map Prod.fst = memberNames
  id : value.member "id" = .string event.stamp.id
  timestamp : value.member "timestamp" = .whole event.stamp.timestamp.toNat
  kind : value.member "event_type" = .string event.kind.name
  severity : value.member "severity" = .string event.severity.name
  username : (value.member "username").IsText event.username
  endpoint : (value.member "endpoint").IsText event.endpoint
  method : (value.member "method").IsText event.method
  path : (value.member "path").IsText event.path
  error : (value.member "error").IsText event.error
  details : ∃ pairs : List (String × String),
    value.member "details" = .object (pairs.map fun (key, text) ↦ (key, .string text)) ∧
      (pairs.map Prod.fst).Nodup ∧
      ∀ key text, (key, text) ∈ pairs ↔ event.details.get? key = some text

/-- An object of an event can be read as it was written. -/
theorem fits_to_json (event : SecurityEvent) : Json.Fits Json.nestingLimit event.toJson := by
  have hdetails : Json.Fits 126
      (.object (event.details.entries.map fun (key, value) ↦ (key, .string value))) := by
    refine .object ?_
    intro member hmember
    obtain ⟨detail, _, rfl⟩ := List.mem_map.mp hmember
    exact .string _ _
  refine .object ?_
  simp only [List.forall_mem_cons, List.not_mem_nil, false_imp_iff, implies_true, and_true]
  exact ⟨.string _ _, .whole _ event.stamp.timestamp.toNat_lt, .string _ _, .string _ _,
    Json.fits_of_text _ _, Json.fits_of_text _ _, Json.fits_of_text _ _, Json.fits_of_text _ _,
    hdetails, Json.fits_of_text _ _⟩

/-- The object of an event shows every event that is the same. -/
theorem Same.shown_by_to_json {event iterated : SecurityEvent} (h : iterated.Same event) :
    event.ShownBy iterated.toJson := by
  have husername : iterated.username = event.username := h.value .username
  have hendpoint : iterated.endpoint = event.endpoint := h.value .endpoint
  have hmethod : iterated.method = event.method := h.value .method
  have hpath : iterated.path = event.path := h.value .path
  have herror : iterated.error = event.error := h.value .error
  exact {
    names := ⟨_, rfl, rfl⟩
    id := by
      rw [← h.stamp]
      rfl
    timestamp := by
      rw [← h.stamp]
      rfl
    kind := by
      rw [← h.kind]
      rfl
    severity := by
      rw [← h.severity]
      rfl
    username := husername ▸ Json.is_text_of_text _
    endpoint := hendpoint ▸ Json.is_text_of_text _
    method := hmethod ▸ Json.is_text_of_text _
    path := hpath ▸ Json.is_text_of_text _
    error := herror ▸ Json.is_text_of_text _
    details := by
      refine ⟨iterated.details.entries, rfl, iterated.details.distinct, ?_⟩
      intro key text
      rw [← KeyedList.get_eq_some_iff]
      have hdetail : iterated.details.get? key = event.details.get? key := h.value (.detail key)
      rw [hdetail] }

/-- A kind has a name of its own. -/
theorem kind_name_inj {first second : EventKind} (h : first.name = second.name) :
    first = second := by
  cases first <;> cases second <;> first | rfl | exact absurd h (by decide)

/-- A severity has a name of its own. -/
theorem severity_name_inj {first second : Severity} (h : first.name = second.name) :
    first = second := by
  cases first <;> cases second <;> first | rfl | exact absurd h (by decide)

/-- An object shows one event only. -/
theorem ShownBy.same {first second : SecurityEvent} {value : Json} (h : first.ShownBy value)
    (hother : second.ShownBy value) : first.Same second where
  stamp := by
    have hid := h.id.symm.trans hother.id
    have htime := h.timestamp.symm.trans hother.timestamp
    simp only [Json.string.injEq, Json.whole.injEq, UInt64.toNat_inj] at hid htime
    rw [EventStamp.mk.injEq]
    exact ⟨hid, htime⟩
  kind := by
    have hname := h.kind.symm.trans hother.kind
    simp only [Json.string.injEq] at hname
    exact kind_name_inj hname
  severity := by
    have hname := h.severity.symm.trans hother.severity
    simp only [Json.string.injEq] at hname
    exact severity_name_inj hname
  value := by
    intro slot
    cases slot with
    | username => exact h.username.unique hother.username
    | endpoint => exact h.endpoint.unique hother.endpoint
    | method => exact h.method.unique hother.method
    | path => exact h.path.unique hother.path
    | error => exact h.error.unique hother.error
    | detail key =>
        obtain ⟨pairs, hpairs, _, hheld⟩ := h.details
        obtain ⟨others, hothers, _, hheldOther⟩ := hother.details
        have hsame : pairs = others := by
          have hobject := hpairs.symm.trans hothers
          simp only [Json.object.injEq] at hobject
          refine List.map_injective_iff.mpr ?_ hobject
          rintro ⟨key, text⟩ ⟨otherKey, otherText⟩ hmember
          simpa using hmember
        show first.details.get? key = second.details.get? key
        refine Option.ext fun text ↦ ?_
        rw [← hheld key text, ← hheldOther key text, hsame]

/-- The text of an event is read as an object that shows every event that is the same. -/
theorem Same.read_text {event iterated : SecurityEvent} (h : iterated.Same event) :
    ∃ value, Json.read iterated.toJson.render = .ok value ∧ event.ShownBy value :=
  ⟨iterated.toJson, Json.read_render iterated.fits_to_json, h.shown_by_to_json⟩

end SecurityEvent

/-- The body of a refusal is read as its message. -/
theorem Refusal.read_body (refusal : Refusal) :
    Json.read refusal.response.body = .ok (.object [("message", .string refusal.message)]) := by
  refine Json.read_render (.object ?_)
  intro member hmember
  rw [List.mem_singleton.mp hmember]
  exact .string _ _

/-- The JSON text of an event is read as an object with the ten members of an event, which tell what
the event holds in whatever order its details are listed, and events that are not the same have
different texts. The body of a refusal is read as an object with its message as the only member. -/
theorem events_read_back :
    (∀ event iterated : SecurityEvent, iterated.Same event →
      ∃ value, Json.read iterated.toJson.render = .ok value ∧ event.ShownBy value) ∧
    (∀ first second iterated other : SecurityEvent, iterated.Same first → other.Same second →
      iterated.toJson.render = other.toJson.render → first.Same second) ∧
    ∀ refusal : Refusal,
      Json.read refusal.response.body = .ok (.object [("message", .string refusal.message)]) := by
  refine ⟨fun event iterated h ↦ h.read_text, ?_, Refusal.read_body⟩
  intro first second iterated other hfirst hsecond htext
  obtain ⟨value, hread, hshown⟩ := hfirst.read_text
  obtain ⟨otherValue, hreadOther, hshownOther⟩ := hsecond.read_text
  rw [htext, hreadOther] at hread
  rw [Except.ok.inj hread] at hshownOther
  exact hshown.same hshownOther

/-- An event with a quote, a backslash and a line feed in its path. -/
def quotedEvent (details : List EventField) : SecurityEvent :=
  ((SecurityEvent.new ⟨"5-0000000a", 7⟩ .accessDenied).set (.path "/a\"\\\n")).setAll details

/-- The event is read back with its details in another order, and without details it has another
text. -/
theorem quoted_event_read_back :
    let listed := quotedEvent [.detail "scope" "method", .detail "declaring_type" "app::A"]
    let iterated := quotedEvent [.detail "declaring_type" "app::A", .detail "scope" "method"]
    iterated.Same listed ∧ iterated ≠ listed ∧
      (∃ value, Json.read iterated.toJson.render = .ok value ∧ listed.ShownBy value) ∧
      (quotedEvent []).toJson.render ≠ iterated.toJson.render := by
  intro listed iterated
  have hsame : iterated.Same listed := by
    refine SecurityEvent.same_set_all _ fun slot ↦ ?_
    by_cases hscope : EventSlot.detail "scope" = slot
    · rw [← hscope]
      rfl
    · simp [lastValue, List.find?, EventField.slot, hscope]
  refine ⟨hsame, by decide, events_read_back.1 listed iterated hsame, ?_⟩
  intro htext
  have hbare : (quotedEvent []).Same (quotedEvent []) := ⟨rfl, rfl, rfl, fun _ ↦ rfl⟩
  have hother := events_read_back.2.1 (quotedEvent []) listed _ iterated hbare hsame htext
  exact absurd (hother.value (.detail "scope")) (by decide)

end EndpointGuard
