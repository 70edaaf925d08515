import Mathlib.Data.List.Sort
import EndpointGuard.Proofs.EventFields
import EndpointGuard.Proofs.Listing

/-!
# The line of an event

What the line of an event depends on. The details are sorted, and a list in strictly ascending order
is determined by its members, so that the order in which details were set or are listed is lost.
Read `line_of_last_values` first: only the last value of each field and of each key of the details
counts.
-/

namespace EndpointGuard

/-- The key of the first detail comes before that of the second in the order of bytes. -/
def DetailBefore (first second : String × String) : Prop :=
  BytesBefore first.1 second.1

instance (first second : String × String) : Decidable (DetailBefore first second) :=
  inferInstanceAs (Decidable (BytesBefore first.1 second.1))

instance : Std.Irrefl DetailBefore where
  irrefl _ := List.lt_irrefl _

instance : Std.Antisymm DetailBefore where
  antisymm _ _ hfirst hsecond := absurd hsecond (List.lt_asymm hfirst)

namespace SecurityEvent

/-- The details are sorted by their keys, no two of which are equal. -/
theorem sorted_details_ascending (event : SecurityEvent) :
    event.sortedDetails.Pairwise DetailBefore :=
  merge_sort_ascending Prod.fst event.details.distinct

/-- Sorting the details keeps the value of each key. -/
theorem mem_sorted_details {event : SecurityEvent} {key value : String} :
    (key, value) ∈ event.sortedDetails ↔ event.value? (.detail key) = some value := by
  show (key, value) ∈ event.sortedDetails ↔ event.details.get? key = some value
  rw [sortedDetails, List.mem_mergeSort, KeyedList.get_eq_some_iff]

variable {first second : SecurityEvent}

/-- Details with the same value for every key are sorted into the same list. -/
theorem sorted_details_eq (h : ∀ key, first.value? (.detail key) = second.value? (.detail key)) :
    first.sortedDetails = second.sortedDetails := by
  refine first.sorted_details_ascending.eq_of_mem_iff second.sorted_details_ascending ?_
  rintro ⟨key, value⟩
  rw [mem_sorted_details, mem_sorted_details, h]

/-- The line shows the kind, the severity and what the slots hold, and nothing else. -/
theorem log_line_eq (hkind : first.kind = second.kind)
    (hseverity : first.severity = second.severity)
    (hvalue : ∀ slot, first.value? slot = second.value? slot) : first.logLine = second.logLine := by
  have husername : first.username = second.username := hvalue .username
  have hendpoint : first.endpoint = second.endpoint := hvalue .endpoint
  have hmethod : first.method = second.method := hvalue .method
  have hpath : first.path = second.path := hvalue .path
  have herror : first.error = second.error := hvalue .error
  have hdetails := sorted_details_eq fun key ↦ hvalue (.detail key)
  simp only [logLine, logParts, hkind, hseverity, husername, hendpoint, hmethod, hpath, herror,
    hdetails]

/-- Behind its other parts, the line lists the details. -/
theorem log_parts_details (event : SecurityEvent) :
    event.logParts = { event with details := .empty }.logParts ++
      event.sortedDetails.map fun (key, value) ↦ key ++ "=" ++ value := by
  have hempty : { event with details := .empty }.sortedDetails = [] := List.mergeSort_nil
  simp only [logParts, hempty, List.map_nil, List.append_nil]

/-- What an event holds after settings is the last value of each slot. -/
theorem Same.value_eq_last {iterated : SecurityEvent} {stamp : EventStamp} {kind : EventKind}
    {fields : List EventField} (h : iterated.Same ((new stamp kind).setAll fields))
    (slot : EventSlot) : iterated.value? slot = lastValue slot fields := by
  rw [h.value, value_set_all, value_new, Option.or_none]

/-- Settings leave the kind of an event, and the severity that is its kind's. -/
theorem Same.kind_severity {iterated : SecurityEvent} {stamp : EventStamp} {kind : EventKind}
    {fields : List EventField} (h : iterated.Same ((new stamp kind).setAll fields)) :
    iterated.kind = kind ∧ iterated.severity = kind.severity := by
  obtain ⟨_, hkind, hseverity⟩ := (new stamp kind).set_all_fixed fields
  exact ⟨h.kind.trans hkind, h.severity.trans hseverity⟩

/-- The line of an event depends on its kind and on the last value that each field and each key of
the details was set to, and not on the order of the settings or of the list of the details. The
details stand at its end, one for each key, in ascending order of the bytes of the keys. -/
theorem line_of_last_values (kind : EventKind) :
    (∀ (stamp other : EventStamp) (fields reordered : List EventField)
      (iterated otherwise : SecurityEvent),
      (∀ slot, lastValue slot fields = lastValue slot reordered) →
      iterated.Same ((new stamp kind).setAll fields) →
      otherwise.Same ((new other kind).setAll reordered) →
      iterated.logLine = otherwise.logLine) ∧
    ∀ (stamp : EventStamp) (fields : List EventField) (iterated : SecurityEvent),
      iterated.Same ((new stamp kind).setAll fields) →
      ∃ details : List (String × String), details.Pairwise DetailBefore ∧
        (∀ key value, (key, value) ∈ details ↔ lastValue (.detail key) fields = some value) ∧
        iterated.logLine = " ".intercalate ({ iterated with details := .empty }.logParts ++
          details.map fun (key, value) ↦ key ++ "=" ++ value) := by
  constructor
  · intro stamp other fields reordered iterated otherwise hlast hiterated hotherwise
    obtain ⟨hkind, hseverity⟩ := hiterated.kind_severity
    obtain ⟨hkindOther, hseverityOther⟩ := hotherwise.kind_severity
    refine log_line_eq (hkind.trans hkindOther.symm) (hseverity.trans hseverityOther.symm) ?_
    intro slot
    rw [hiterated.value_eq_last, hotherwise.value_eq_last, hlast]
  · intro stamp fields iterated hiterated
    refine ⟨iterated.sortedDetails, iterated.sorted_details_ascending, ?_, ?_⟩
    · intro key value
      rw [mem_sorted_details, hiterated.value_eq_last]
    · rw [logLine, log_parts_details]

/-- A path that is set twice, with details of which one is set twice. -/
def tangledFields : List EventField :=
  [.detail "scope" "method", .path "/a", .detail "declaring_type" "app::A",
    .detail "scope" "declaring_type", .path "/b"]

/-- What the settings leave, in another order and without those that do not last. -/
def lastingFields : List EventField :=
  [.detail "declaring_type" "app::A", .detail "scope" "declaring_type", .path "/b"]

/-- Both orders of settings lead to one line, with the details in ascending order. -/
theorem tangled_fields_line :
    let tangled := (new ⟨"1", 0⟩ .accessGranted).setAll tangledFields
    let lasting := (new ⟨"2", 5⟩ .accessGranted).setAll lastingFields
    tangled.details ≠ lasting.details ∧ tangled.logLine = lasting.logLine ∧
      tangled.logLine = "[INFO] [ACCESS_GRANTED] user=<anonymous> path=/b " ++
        "declaring_type=app::A scope=declaring_type" := by
  intro tangled lasting
  have hline := line_of_last_values .accessGranted
  have hlast (slot : EventSlot) : lastValue slot tangledFields = lastValue slot lastingFields := by
    by_cases hpath : EventSlot.path = slot
    · rw [← hpath]
      rfl
    by_cases hscope : EventSlot.detail "scope" = slot
    · rw [← hscope]
      rfl
    · simp [lastValue, tangledFields, lastingFields, List.find?, EventField.slot, hpath, hscope]
  refine ⟨by decide, ?_, ?_⟩
  · exact hline.1 ⟨"1", 0⟩ ⟨"2", 5⟩ tangledFields lastingFields tangled lasting hlast
      ⟨rfl, rfl, rfl, fun _ ↦ rfl⟩ ⟨rfl, rfl, rfl, fun _ ↦ rfl⟩
  · obtain ⟨details, hsorted, hmem, hdetails⟩ :=
      hline.2 ⟨"1", 0⟩ tangledFields tangled ⟨rfl, rfl, rfl, fun _ ↦ rfl⟩
    have hlisted : details = [("declaring_type", "app::A"), ("scope", "declaring_type")] := by
      refine hsorted.eq_of_mem_iff (List.pairwise_pair.mpr (by decide)) fun pair ↦ ?_
      obtain ⟨key, value⟩ := pair
      rw [hmem]
      by_cases hscope : "scope" = key
      · subst hscope
        simp [lastValue, tangledFields, EventField.slot, EventField.value, eq_comm]
      by_cases htype : "declaring_type" = key
      · subst htype
        simp [lastValue, tangledFields, EventField.slot, EventField.value, eq_comm]
      · simp [lastValue, tangledFields, EventField.slot, Ne.symm hscope, hscope, htype,
          Ne.symm htype]
    rw [hdetails, hlisted]
    decide +kernel

end SecurityEvent

end EndpointGuard
