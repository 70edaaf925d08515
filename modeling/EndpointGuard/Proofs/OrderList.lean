import Mathlib.Algebra.Group.Nat.Defs
import Mathlib.Data.List.Nodup
import EndpointGuard.Proofs.OrderNumbers

/-!
# The list of orders

What stands on the order desk after a run of placements and cancellations. A new order is numbered
by the last one only, and a cancellation takes off whatever has its number; that the numbers ascend
along the list makes both come out right. Read `orders_well_kept` first: in every state of a run a
placement adds an order under a new number, a cancellation takes off one order or none, and the
numbers that were given out are those on the desk and those taken off.
-/

namespace EndpointGuard.Demo.OrderDesk

open scoped List

/-- The call is a placement. -/
def Call.isPlacement : Call → Bool
  | .place _ _ => true
  | .cancel _ => false

/-- The number of placements in a run of calls. -/
def placements (calls : List Call) : Nat :=
  calls.countP Call.isPlacement

/-- The number that a call takes off the desk: that of a cancelled order, or none. -/
def takes (desk : OrderDesk) : Call → List Nat
  | .place _ _ => []
  | .cancel id => if (desk.cancel id).1 then [id] else []

/-- The numbers that a run of calls takes off the desk, one for each cancellation that succeeds. -/
def taken (desk : OrderDesk) : List Call → List Nat
  | [] => []
  | call :: rest => desk.takes call ++ (desk.apply call).taken rest

/-- A placement puts its order behind all others, under a number higher than theirs. -/
def PlacesNew (desk : OrderDesk) (owner item : String) : Prop :=
  ∃ id, (∀ n ∈ desk.numbers, n < id) ∧
    desk.place owner item = (⟨id, item, owner⟩, ⟨desk.orders ++ [⟨id, item, owner⟩]⟩)

/-- A cancellation takes the one order with its number off and leaves the others in their order, or
it finds none and leaves the desk as it is. -/
inductive CancelsOne (desk : OrderDesk) (id : Nat) : Prop where
  | found (before : List Order) (order : Order) (after : List Order)
      (orders_eq : desk.orders = before ++ order :: after) (id_eq : order.id = id)
      (others_ne : ∀ other ∈ before ++ after, other.id ≠ id)
      (cancel_eq : desk.cancel id = (true, ⟨before ++ after⟩))
  | missing (not_mem : id ∉ desk.numbers) (cancel_eq : desk.cancel id = (false, desk))

/-- The numbers on the desk begin at one or higher and ascend, and with them placements and
cancellations do what they are meant to. -/
structure WellKept (desk : OrderDesk) : Prop where
  positive : ∀ n ∈ desk.numbers, 1 ≤ n
  ascending : desk.numbers.Pairwise (· < ·)
  places_new : ∀ owner item, PlacesNew desk owner item
  cancels_one : ∀ id, CancelsOne desk id
  cancel_iff : ∀ id, (desk.cancel id).1 = true ↔ id ∈ desk.numbers

variable {desk : OrderDesk} {given : List Nat} {highest : Nat}

/-! ## One call -/

/-- No number stands on the desk twice. -/
theorem Numbered.nodup (h : Numbered desk given highest) : desk.numbers.Nodup :=
  h.ascending.imp Nat.ne_of_lt

/-- Where numbers ascend, a placement adds an order under a new number. -/
theorem Numbered.places_new (h : Numbered desk given highest) (owner item : String) :
    PlacesNew desk owner item :=
  ⟨desk.nextId, fun _ hn ↦ h.lt_next_id hn, rfl⟩

/-- Without a second order of its number, a cancellation takes off the order where it stands. -/
theorem cancel_of_split {before after : List Order} {order : Order}
    (horders : desk.orders = before ++ order :: after)
    (hothers : ∀ other ∈ before ++ after, other.id ≠ order.id) :
    desk.cancel order.id = (true, ⟨before ++ after⟩) := by
  have hkept : (desk.orders.filter fun other ↦ other.id ≠ order.id) = before ++ after := by
    have hall : ((before ++ after).filter fun other ↦ other.id ≠ order.id) = before ++ after := by
      rw [List.filter_eq_self]
      intro other hmem
      simpa using hothers other hmem
    rw [List.filter_append] at hall
    rw [horders, List.filter_append, List.filter_cons_of_neg (by simp), hall]
  have hlength : (before ++ after).length ≠ desk.orders.length := by
    rw [horders, List.length_append, List.length_append, List.length_cons]
    omega
  unfold cancel
  simp only [hkept]
  simp only [hlength, ne_eq, not_false_eq_true, decide_true]

/-- Where no number stands twice, a cancellation takes off one order or none. -/
theorem cancels_one_of_nodup (h : desk.numbers.Nodup) (id : Nat) : CancelsOne desk id := by
  by_cases hid : id ∈ desk.numbers
  · obtain ⟨order, horder, rfl⟩ := List.mem_map.mp hid
    obtain ⟨before, after, horders⟩ := List.append_of_mem horder
    have hothers : ∀ other ∈ before ++ after, other.id ≠ order.id := by
      rw [numbers, horders, List.map_append, List.map_cons, List.nodup_middle,
        ← List.map_append, List.nodup_cons] at h
      intro other hother hsame
      exact h.1 (hsame ▸ List.mem_map_of_mem hother)
    exact .found before order after horders rfl hothers (cancel_of_split horders hothers)
  · exact .missing hid (cancel_of_not_mem hid)

/-- What a call adds to the numbers and what it takes off make up for the change of the desk. -/
theorem numbers_apply_perm (h : desk.numbers.Nodup) (call : Call) :
    (desk.numbers ++ desk.gives call).Perm (desk.takes call ++ (desk.apply call).numbers) := by
  cases call with
  | place owner item =>
      rw [numbers_place]
      exact .refl _
  | cancel id =>
      rw [gives, List.append_nil]
      by_cases hid : id ∈ desk.numbers
      · have htakes : desk.takes (.cancel id) = [id] := if_pos (cancel_fst_iff.mpr hid)
        have hrest : desk.numbers.filter (· ≠ id) = desk.numbers.erase id := by
          rw [h.erase_eq_filter]
          refine List.filter_congr fun n _ ↦ ?_
          rw [Bool.eq_iff_iff]
          simp
        rw [htakes, numbers_cancel, hrest]
        exact List.perm_cons_erase hid
      · have htakes : desk.takes (.cancel id) = [] := if_neg fun h ↦ hid (cancel_fst_iff.mp h)
        have hsame : desk.apply (.cancel id) = desk := congrArg Prod.snd (cancel_of_not_mem hid)
        rw [htakes, hsame, List.nil_append]

/-! ## A run of calls -/

/-- The numbers on the desk and those that a run gives out are those that it takes off and those
that it leaves. -/
theorem Numbered.run_perm (h : Numbered desk given highest) (calls : List Call) :
    (desk.numbers ++ desk.given calls).Perm (desk.taken calls ++ (desk.run calls).numbers) := by
  induction calls generalizing desk given highest with
  | nil =>
      rw [OrderDesk.given, List.append_nil]
      exact .refl _
  | cons call rest ih =>
      obtain ⟨_, hstep⟩ := h.apply call
      have hlater := ih hstep
      calc desk.numbers ++ desk.given (call :: rest)
          = (desk.numbers ++ desk.gives call) ++ (desk.apply call).given rest := by
            rw [OrderDesk.given, List.append_assoc]
        _ ~ (desk.takes call ++ (desk.apply call).numbers) ++ (desk.apply call).given rest :=
            (numbers_apply_perm h.nodup call).append_right _
        _ = desk.takes call ++ ((desk.apply call).numbers ++ (desk.apply call).given rest) :=
            List.append_assoc _ _ _
        _ ~ desk.takes call ++ ((desk.apply call).taken rest ++
              ((desk.apply call).run rest).numbers) := hlater.append_left _
        _ = desk.taken (call :: rest) ++ (desk.run (call :: rest)).numbers :=
            (List.append_assoc _ _ _).symm

/-- A run gives out one number for each placement. -/
theorem length_given (desk : OrderDesk) (calls : List Call) :
    (desk.given calls).length = placements calls := by
  induction calls generalizing desk with
  | nil => rfl
  | cons call rest ih =>
      rw [OrderDesk.given, List.length_append, ih, placements, placements, List.countP_cons]
      cases call with
      | place owner item => exact Nat.add_comm _ _
      | cancel id => exact Nat.zero_add _

/-- A desk whose numbers ascend is kept well. -/
theorem Numbered.well_kept (h : Numbered desk given highest) : WellKept desk where
  positive n hn := ((h.given_iff n).mp (h.subset n hn)).1
  ascending := h.ascending
  places_new := h.places_new
  cancels_one := cancels_one_of_nodup h.nodup
  cancel_iff _ := cancel_fst_iff

/-- In every state of a run on the empty desk the numbers begin at one or higher and ascend, a
placement adds an order under a number higher than the others, and a cancellation takes off the one
order with its number, exactly if there is one. The numbers given out are those taken off and those
on the desk, so that as many orders are there as were placed and not cancelled. With fewer
placements than a word of 64 bits counts, the number of the next order fits in a word. -/
theorem orders_well_kept (calls : List Call) :
    WellKept (run {} calls) ∧
    (({} : OrderDesk).given calls).Perm
      (({} : OrderDesk).taken calls ++ (run {} calls).numbers) ∧
    (run {} calls).count + (({} : OrderDesk).taken calls).length = placements calls ∧
    (placements calls < 2 ^ 64 - 1 →
      ∀ owner item, ((run {} calls).place owner item).1.id < 2 ^ 64) := by
  obtain ⟨highest, h⟩ := numbered_run calls
  have hlength := length_given {} calls
  have hperm := numbered_empty.run_perm calls
  refine ⟨h.well_kept, hperm, ?_, ?_⟩
  · have hsame := hperm.length_eq
    rw [List.length_append, List.length_append, hlength] at hsame
    have hcount : (run {} calls).numbers.length = (run {} calls).count := List.length_map _
    have hempty : ({} : OrderDesk).numbers.length = 0 := rfl
    omega
  · intro hfew owner item
    have hnext := h.next_id_le
    have hhighest := h.highest_le
    show (run {} calls).nextId < 2 ^ 64
    omega

/-- Of three orders the middle one is cancelled, and a cancellation of it that is repeated fails. -/
def thinnedRun : List Call :=
  [.place "user" "tea", .place "admin" "milk", .place "user" "rice", .cancel 2, .cancel 2]

/-- One of three orders was taken off, the others stand as they stood, and the next order gets the
number behind theirs. -/
theorem thinned_run_well_kept :
    placements thinnedRun < 2 ^ 64 - 1 ∧
      ({} : OrderDesk).taken thinnedRun = [2] ∧
      (run {} thinnedRun).orders = [⟨1, "tea", "user"⟩, ⟨3, "rice", "user"⟩] ∧
      (run {} thinnedRun).count + 1 = placements thinnedRun ∧
      (({} : OrderDesk).given thinnedRun).Perm [2, 1, 3] ∧
      ((run {} thinnedRun).cancel 3).1 = true ∧
      ((run {} thinnedRun).place "admin" "salt").1.id < 2 ^ 64 := by
  have hfew : placements thinnedRun < 2 ^ 64 - 1 := by decide
  obtain ⟨hkept, hperm, hcount, hword⟩ := orders_well_kept thinnedRun
  exact ⟨hfew, by decide, by decide, hcount, hperm, (hkept.cancel_iff 3).mpr (by decide),
    hword hfew _ _⟩

end EndpointGuard.Demo.OrderDesk
