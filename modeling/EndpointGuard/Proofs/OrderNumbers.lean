import Mathlib.Data.List.Induction
import EndpointGuard.Demo.OrderDesk

/-!
# The numbers of orders

Which numbers the order desk gives out in a run of placements and cancellations. A new order is
numbered one higher than the last one on the desk, so that its number depends on which orders were
cancelled before. `Numbered` is what a run preserves: the numbers on the desk ascend, and those
given out are the numbers from one up to the highest. Read `cancelled_for_good_iff` first: it says
when a number is given out a second time, and so when a cancellation can be repeated.
-/

namespace EndpointGuard.Demo.OrderDesk

/-- A call that changes the orders. -/
inductive Call where
  | place (owner item : String)
  | cancel (id : Nat)
deriving DecidableEq

/-- The numbers of the orders on the desk. -/
def numbers (desk : OrderDesk) : List Nat :=
  desk.orders.map Order.id

/-- The desk after a call. -/
def apply (desk : OrderDesk) : Call → OrderDesk
  | .place owner item => (desk.place owner item).2
  | .cancel id => (desk.cancel id).2

/-- The desk after a run of calls. -/
def run (desk : OrderDesk) (calls : List Call) : OrderDesk :=
  calls.foldl apply desk

/-- The numbers that a call gives out: that of the new order, or none. -/
def gives (desk : OrderDesk) : Call → List Nat
  | .place owner item => [(desk.place owner item).1.id]
  | .cancel _ => []

/-- The numbers that a run of calls gives out, one after the other. -/
def given (desk : OrderDesk) : List Call → List Nat
  | [] => []
  | call :: rest => desk.gives call ++ (desk.apply call).given rest

variable {desk : OrderDesk} {call : Call} {calls : List Call} {id n : Nat}

/-! ## What one call does to the numbers -/

/-- A placement puts the next number behind those on the desk. -/
@[simp]
theorem numbers_place (desk : OrderDesk) (owner item : String) :
    (desk.apply (.place owner item)).numbers = desk.numbers ++ [desk.nextId] := by
  simp [numbers, apply, place, newOrder]

/-- A cancellation takes its number off the desk. -/
@[simp]
theorem numbers_cancel (desk : OrderDesk) (id : Nat) :
    (desk.apply (.cancel id)).numbers = desk.numbers.filter (· ≠ id) := by
  simp [numbers, apply, cancel, List.filter_map, Function.comp_def]

/-- The numbers on the desk after a call are those before it and those that it gives out, without
the one that it cancels. -/
theorem mem_numbers_apply_iff :
    n ∈ (desk.apply call).numbers ↔
      (n ∈ desk.numbers ∨ n ∈ desk.gives call) ∧ call ≠ .cancel n := by
  cases call with
  | place owner item =>
      have hgives : desk.gives (.place owner item) = [desk.nextId] := rfl
      simp [hgives]
  | cancel id =>
      have hne : Call.cancel id ≠ .cancel n ↔ n ≠ id := by
        rw [ne_eq, Call.cancel.injEq, eq_comm]
      simp [gives, hne]

/-- The next number is one higher than the last on the desk. -/
theorem next_id_eq (desk : OrderDesk) : desk.nextId = desk.numbers.getLast?.getD 0 + 1 := by
  unfold nextId numbers
  rw [List.getLast?_map]
  cases desk.orders.getLast? <;> rfl

/-- Numbers are given out from one on. -/
theorem one_le_next_id (desk : OrderDesk) : 1 ≤ desk.nextId := by
  rw [next_id_eq]
  omega

/-- A cancellation of a number that is not on the desk answers so and changes nothing. -/
theorem cancel_of_not_mem (h : id ∉ desk.numbers) : desk.cancel id = (false, desk) := by
  have hkept : (desk.orders.filter fun order ↦ order.id ≠ id) = desk.orders := by
    rw [List.filter_eq_self]
    intro order horder
    have hne : order.id ≠ id := fun e ↦ h (List.mem_map.mpr ⟨order, horder, e⟩)
    simpa using hne
  unfold cancel
  simp only [hkept]
  simp

/-- A cancellation succeeds exactly when its number is on the desk. -/
theorem cancel_fst_iff : (desk.cancel id).1 = true ↔ id ∈ desk.numbers := by
  constructor
  · intro h
    by_contra hnone
    rw [cancel_of_not_mem hnone] at h
    cases h
  · intro h
    obtain ⟨order, horder, hid⟩ := List.mem_map.mp h
    have hlt : (desk.orders.filter fun order ↦ order.id ≠ id).length < desk.orders.length := by
      rw [List.length_filter_lt_length_iff_exists]
      exact ⟨order, horder, by simp [hid]⟩
    simp only [cancel, decide_eq_true_eq]
    omega

/-! ## What a run does to the numbers -/

/-- A run is its beginning and the rest. -/
theorem run_append (desk : OrderDesk) (earlier later : List Call) :
    desk.run (earlier ++ later) = (desk.run earlier).run later :=
  List.foldl_append

/-- A run gives out the numbers of its beginning and those of the rest. -/
theorem given_append (desk : OrderDesk) (earlier later : List Call) :
    desk.given (earlier ++ later) = desk.given earlier ++ (desk.run earlier).given later := by
  induction earlier generalizing desk with
  | nil => rfl
  | cons call rest ih =>
      rw [List.cons_append, given, given, ih, List.append_assoc]
      rfl

/-- What is on the desk after a run was there before or was given out. -/
theorem mem_of_mem_run (h : n ∈ (desk.run calls).numbers) :
    n ∈ desk.numbers ∨ n ∈ desk.given calls := by
  induction calls generalizing desk with
  | nil => exact Or.inl h
  | cons call rest ih =>
      rw [given, List.mem_append]
      rcases ih h with hstep | hlater
      · exact (mem_numbers_apply_iff.mp hstep).1.imp_right Or.inl
      · exact Or.inr (Or.inr hlater)

/-- Without a cancellation of a number, it is on the desk after a run exactly if it was there before
or was given out. -/
theorem mem_run_iff (h : .cancel n ∉ calls) :
    n ∈ (desk.run calls).numbers ↔ n ∈ desk.numbers ∨ n ∈ desk.given calls := by
  refine ⟨mem_of_mem_run, fun hmem ↦ ?_⟩
  induction calls generalizing desk with
  | nil => exact hmem.resolve_right List.not_mem_nil
  | cons call rest ih =>
      obtain ⟨hcall, hrest⟩ := not_or.mp (List.mem_cons.not.mp h)
      rw [given, List.mem_append, ← or_assoc] at hmem
      refine ih hrest (hmem.imp_left fun hbefore ↦ ?_)
      exact mem_numbers_apply_iff.mpr ⟨hbefore, Ne.symm hcall⟩

/-! ## The invariant of a run -/

/-- The numbers on a desk ascend, and those that were given out so far are the numbers from one up
to the highest, of which there are no more than placements. -/
structure Numbered (desk : OrderDesk) (given : List Nat) (highest : Nat) : Prop where
  ascending : desk.numbers.Pairwise (· < ·)
  subset : ∀ n ∈ desk.numbers, n ∈ given
  given_iff : ∀ n, n ∈ given ↔ 1 ≤ n ∧ n ≤ highest
  highest_le : highest ≤ given.length

variable {given : List Nat} {highest : Nat}

/-- The empty desk has given out no number. -/
theorem numbered_empty : Numbered {} [] 0 where
  ascending := .nil
  subset _ h := h
  given_iff n := by
    simp only [List.not_mem_nil, false_iff]
    omega
  highest_le := Nat.le_refl 0

/-- Every number on the desk is lower than the next one. -/
theorem Numbered.lt_next_id (h : Numbered desk given highest) (hn : n ∈ desk.numbers) :
    n < desk.nextId := by
  rw [next_id_eq]
  have hne : desk.numbers ≠ [] := List.ne_nil_of_mem hn
  have hascending := h.ascending
  rw [← List.dropLast_concat_getLast hne] at hn hascending ⊢
  rw [List.pairwise_append] at hascending
  rw [List.getLast?_concat, Option.getD_some]
  rcases List.mem_append.mp hn with hfront | hsame
  · have := hascending.2.2 n hfront _ (List.mem_singleton_self _)
    omega
  · rw [List.mem_singleton.mp hsame]
    omega

/-- The next number is a number that was given out, or the one behind the highest. -/
theorem Numbered.next_id_le (h : Numbered desk given highest) : desk.nextId ≤ highest + 1 := by
  rw [next_id_eq]
  cases hlast : desk.numbers.getLast? with
  | none => exact Nat.le_add_left 1 highest
  | some last =>
      have hmem := h.subset last (List.mem_of_getLast? hlast)
      have := ((h.given_iff last).mp hmem).2
      show last + 1 ≤ highest + 1
      omega

/-- A placement gives out a new number exactly when no number was given out before, or the highest
one is still on the desk. -/
theorem Numbered.next_id_not_mem_iff (h : Numbered desk given highest) :
    desk.nextId ∉ given ↔ highest = 0 ∨ highest ∈ desk.numbers := by
  have hle := h.next_id_le
  have hpos := desk.one_le_next_id
  rw [h.given_iff]
  constructor
  · intro hnew
    by_cases hzero : highest = 0
    · exact Or.inl hzero
    · right
      -- The last number on the desk is the highest that was given out.
      have hnext : desk.nextId = highest + 1 := by omega
      rw [next_id_eq] at hnext
      cases hlast : desk.numbers.getLast? with
      | none =>
          rw [hlast] at hnext
          exact absurd (Nat.succ.inj hnext).symm hzero
      | some last =>
          rw [hlast] at hnext
          rw [← Nat.succ.inj hnext]
          exact List.mem_of_getLast? hlast
  · rintro (hzero | hstands)
    · omega
    · have := h.lt_next_id hstands
      omega

/-- A call preserves the invariant, with the number that it gives out. -/
theorem Numbered.apply (h : Numbered desk given highest) (call : Call) :
    ∃ highest, Numbered (desk.apply call) (given ++ desk.gives call) highest := by
  cases call with
  | place owner item =>
      have hle := h.next_id_le
      have hlength := h.highest_le
      have hpos := desk.one_le_next_id
      refine ⟨max highest desk.nextId, ?_, ?_, ?_, ?_⟩
      · rw [numbers_place, List.pairwise_append]
        refine ⟨h.ascending, List.pairwise_singleton _ _, ?_⟩
        intro n hn next hnext
        rw [List.mem_singleton.mp hnext]
        exact h.lt_next_id hn
      · intro n hn
        rw [List.mem_append]
        exact (mem_numbers_apply_iff.mp hn).1.imp_left (h.subset n)
      · intro n
        show n ∈ given ++ [desk.nextId] ↔ _
        rw [List.mem_append, List.mem_singleton, h.given_iff]
        omega
      · show _ ≤ (given ++ [desk.nextId]).length
        rw [List.length_append, List.length_singleton]
        omega
  | cancel id =>
      refine ⟨highest, ?_, ?_, ?_, ?_⟩
      · rw [numbers_cancel]
        exact h.ascending.filter _
      · intro n hn
        rw [List.mem_append]
        exact (mem_numbers_apply_iff.mp hn).1.imp_left (h.subset n)
      · simpa [gives] using h.given_iff
      · simpa [gives] using h.highest_le

/-- A run preserves the invariant, with the numbers that it gives out. -/
theorem Numbered.run (h : Numbered desk given highest) (calls : List Call) :
    ∃ highest, Numbered (desk.run calls) (given ++ desk.given calls) highest := by
  induction calls generalizing desk given highest with
  | nil =>
      rw [OrderDesk.given, List.append_nil]
      exact ⟨highest, h⟩
  | cons call rest ih =>
      obtain ⟨_, hstep⟩ := h.apply call
      rw [OrderDesk.given, ← List.append_assoc]
      exact ih hstep

/-- The invariant holds after every run on the empty desk. -/
theorem numbered_run (calls : List Call) :
    ∃ highest, Numbered (run {} calls) (({} : OrderDesk).given calls) highest := by
  simpa using numbered_empty.run calls

/-! ## Numbers that are given out again -/

/-- The highest number that a run on the empty desk has given out, if it has given out any, is still
on the desk. -/
def HighestStands (calls : List Call) : Prop :=
  ∀ n ∈ ({} : OrderDesk).given calls, (∀ m ∈ ({} : OrderDesk).given calls, m ≤ n) →
    n ∈ (run {} calls).numbers

/-- After a run, the next number is new exactly when the highest one is still on the desk. -/
theorem next_id_new_iff (calls : List Call) :
    (run {} calls).nextId ∉ ({} : OrderDesk).given calls ↔ HighestStands calls := by
  obtain ⟨highest, h⟩ := numbered_run calls
  rw [h.next_id_not_mem_iff]
  constructor
  · intro hstands n hn hmax
    have hbounds := (h.given_iff n).mp hn
    have hpos : highest ≠ 0 := by omega
    have hhighest : highest ≤ n := hmax highest ((h.given_iff highest).mpr (by omega))
    rw [show n = highest by omega]
    exact hstands.resolve_left hpos
  · intro hstands
    by_cases hzero : highest = 0
    · exact Or.inl hzero
    · refine Or.inr (hstands highest ((h.given_iff highest).mpr (by omega)) ?_)
      intro m hm
      exact ((h.given_iff m).mp hm).2

/-- A run gives out no number twice exactly when at each of its placements the highest number given
out before is still on the desk. -/
theorem nodup_given_iff (calls : List Call) :
    (({} : OrderDesk).given calls).Nodup ↔
      ∀ earlier owner item later, calls = earlier ++ .place owner item :: later →
        HighestStands earlier := by
  constructor
  · rintro h earlier owner item later rfl
    rw [given_append, List.nodup_append] at h
    rw [← next_id_new_iff]
    intro hmem
    exact h.2.2 _ hmem _ (List.mem_append_left _ (List.mem_singleton_self _)) rfl
  · intro h
    induction calls using List.reverseRecOn with
    | nil => exact .nil
    | append_singleton earlier call ih =>
        have hearlier := ih fun first owner item later hcalls ↦
          h first owner item (later ++ [call]) (by simp [hcalls])
        rw [given_append, List.nodup_append]
        refine ⟨hearlier, ?_, ?_⟩
        · cases call with
          | place owner item => exact List.pairwise_singleton _ _
          | cancel id => exact .nil
        · cases call with
          | place owner item =>
              have hnew := (next_id_new_iff earlier).mpr (h earlier owner item [] rfl)
              intro n hn next hnext hsame
              rw [hsame, List.mem_singleton.mp hnext] at hn
              exact hnew hn
          | cancel id =>
              intro n _ next hnext
              cases hnext

/-- An order is only cancelled under a number that was given out. -/
theorem given_of_cancel (h : ((run {} calls).cancel id).1 = true) :
    id ∈ ({} : OrderDesk).given calls :=
  (mem_of_mem_run (cancel_fst_iff.mp h)).resolve_left List.not_mem_nil

/-- Right after its cancellation a number is not on the desk. -/
theorem not_mem_after_cancel (desk : OrderDesk) (id : Nat) :
    id ∉ (desk.apply (.cancel id)).numbers := by
  rw [mem_numbers_apply_iff]
  exact fun h ↦ h.2 rfl

/-- Behind a cancellation a run goes on from the desk that the cancellation leaves. -/
theorem run_cancel (earlier between : List Call) (id : Nat) :
    run {} (earlier ++ .cancel id :: between) =
      ((run {} earlier).apply (.cancel id)).run between :=
  run_append _ _ _

/-- Where no number is given out twice, a number that was cancelled does not come back. -/
theorem not_mem_of_nodup {earlier between : List Call}
    (h : (({} : OrderDesk).given (earlier ++ .cancel id :: between)).Nodup)
    (hcancelled : ((run {} earlier).cancel id).1 = true) :
    id ∉ (run {} (earlier ++ .cancel id :: between)).numbers := by
  rw [given_append, List.nodup_append] at h
  rw [run_cancel]
  intro hback
  have hagain := (mem_of_mem_run hback).resolve_left (not_mem_after_cancel _ id)
  exact h.2.2 id (given_of_cancel hcancelled) id (List.mem_append_right _ hagain) rfl

/-- A number that was cancelled stands on the desk again exactly when it was given out again, as
long as it is not cancelled in between. -/
theorem mem_after_cancel_iff (earlier : List Call) {between : List Call}
    (h : .cancel id ∉ between) :
    id ∈ (run {} (earlier ++ .cancel id :: between)).numbers ↔
      id ∈ (run {} (earlier ++ [.cancel id])).given between := by
  rw [run_cancel, run_append, mem_run_iff h]
  exact or_iff_right (not_mem_after_cancel _ id)

/-- In a run on the empty desk no number is given out twice, and once a number was cancelled every
later cancellation of it answers that there is no such order and changes nothing. -/
structure CancelsForGood (calls : List Call) : Prop where
  numbers_new : (({} : OrderDesk).given calls).Nodup
  stays_cancelled : ∀ earlier id between later,
    calls = earlier ++ .cancel id :: (between ++ later) → ((run {} earlier).cancel id).1 = true →
    let desk := run {} (earlier ++ .cancel id :: between)
    desk.cancel id = (false, desk)

/-- Where no number is given out twice, cancelling is final. -/
theorem cancels_for_good_of_nodup (h : (({} : OrderDesk).given calls).Nodup) :
    CancelsForGood calls where
  numbers_new := h
  stays_cancelled := by
    rintro earlier id between later rfl hcancelled
    rw [← List.cons_append, ← List.append_assoc, given_append] at h
    exact cancel_of_not_mem (not_mem_of_nodup (List.nodup_append.mp h).1 hcancelled)

/-- In a run on the empty desk cancelling is final exactly when at each placement the highest number
given out before is still on the desk. The numbers given out lie between one and the number of
placements. Whatever the run, a cancellation that is repeated succeeds exactly when a placement in
between gave the number out again, and changes nothing otherwise. -/
theorem cancelled_for_good_iff (calls : List Call) :
    (CancelsForGood calls ↔
      ∀ earlier owner item later, calls = earlier ++ .place owner item :: later →
        HighestStands earlier) ∧
    (∀ n ∈ ({} : OrderDesk).given calls,
      1 ≤ n ∧ n ≤ (({} : OrderDesk).given calls).length) ∧
    ∀ earlier id between later, calls = earlier ++ .cancel id :: (between ++ later) →
      .cancel id ∉ between →
      let desk := run {} (earlier ++ .cancel id :: between)
      let again := (run {} (earlier ++ [.cancel id])).given between
      ((desk.cancel id).1 = true ↔ id ∈ again) ∧
        (desk.cancel id = (false, desk) ↔ id ∉ again) := by
  refine ⟨?_, ?_, ?_⟩
  · rw [← nodup_given_iff]
    exact ⟨CancelsForGood.numbers_new, cancels_for_good_of_nodup⟩
  · intro n hn
    obtain ⟨highest, h⟩ := numbered_run calls
    have hbounds := (h.given_iff n).mp hn
    have hle := h.highest_le
    omega
  · intro earlier id between later _ hbetween
    have hmem := mem_after_cancel_iff earlier hbetween
    refine ⟨by rw [cancel_fst_iff, hmem], ?_⟩
    rw [← hmem]
    refine ⟨fun h hstands ↦ ?_, cancel_of_not_mem⟩
    rw [← cancel_fst_iff, h] at hstands
    cases hstands

/-- Two customers order one after the other, and the first order is cancelled in between. -/
def reorderedRun : List Call :=
  [.place "user" "tea", .cancel 1, .place "admin" "milk"]

/-- The second order gets the number of the first one, and a cancellation that is repeated takes it
off the desk. -/
theorem reordered_run_cancels_twice :
    ({} : OrderDesk).given reorderedRun = [1, 1] ∧
      ((run {} [.place "user" "tea"]).cancel 1).1 = true ∧
      (run {} reorderedRun).orders = [⟨1, "milk", "admin"⟩] ∧
      (run {} reorderedRun).cancel 1 = (true, {}) ∧
      ¬ CancelsForGood (reorderedRun ++ [.cancel 1]) := by
  refine ⟨by decide, by decide, by decide, by decide, ?_⟩
  intro h
  have hagain := h.stays_cancelled [.place "user" "tea"] 1 [.place "admin" "milk"] [.cancel 1] rfl
    (by decide)
  exact absurd hagain (by decide)

/-- The first of two orders is cancelled, and a third one is placed. -/
def standingRun : List Call :=
  [.place "user" "tea", .place "admin" "milk", .cancel 1, .place "user" "rice"]

/-- While a later order stands, the number of a cancelled one does not come back. Without one it
does. -/
theorem standing_order_keeps_numbers :
    ({} : OrderDesk).given standingRun = [1, 2, 3] ∧ CancelsForGood standingRun ∧
      (run {} standingRun).cancel 1 = (false, run {} standingRun) ∧
      ((run {} reorderedRun).cancel 1).1 = true := by
  have hgood : CancelsForGood standingRun := cancels_for_good_of_nodup (by decide)
  obtain ⟨_, _, hstanding⟩ := cancelled_for_good_iff standingRun
  obtain ⟨_, _, hreordered⟩ := cancelled_for_good_iff reorderedRun
  have hkept := hstanding [.place "user" "tea", .place "admin" "milk"] 1 [.place "user" "rice"] []
    rfl (by decide)
  have hback := hreordered [.place "user" "tea"] 1 [.place "admin" "milk"] [] rfl (by decide)
  exact ⟨by decide, hgood, hkept.2.mpr (by decide), hback.1.mpr (by decide)⟩

end EndpointGuard.Demo.OrderDesk
