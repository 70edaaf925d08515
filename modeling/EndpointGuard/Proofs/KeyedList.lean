import Mathlib.Data.List.Nodup
import EndpointGuard.KeyedList

/-!
# Lookups after many entries

What a keyed list holds after pairs have been entered one after the other. Read `get_insert_all`
first: the last pair with the key counts, and without one the value stays what it was. Where every
value is entered under a key of its own (`KeyedBy`), looking up the key of a value finds it.
-/

namespace EndpointGuard.KeyedList

variable {κ α : Type} [DecidableEq κ]

/-- Looking up a key is a search for the first pair that has it. -/
theorem find_eq_find_some (key : κ) (pairs : List (κ × α)) :
    find? key pairs = pairs.findSome? fun pair ↦ if pair.1 = key then some pair.2 else none := by
  induction pairs with
  | nil => rfl
  | cons pair rest ih =>
      rw [find?, List.findSome?_cons, ih]
      split <;> rfl

/-- Of two lists of pairs, the first one counts. -/
theorem find_append (key : κ) (first second : List (κ × α)) :
    find? key (first ++ second) = (find? key first).or (find? key second) := by
  simp only [find_eq_find_some, List.findSome?_append]

/-- The value that is found stands in a pair with the key. -/
theorem mem_of_find {key : κ} {value : α} {pairs : List (κ × α)}
    (h : find? key pairs = some value) : (key, value) ∈ pairs := by
  induction pairs with
  | nil => cases h
  | cons pair rest ih =>
      rw [find?] at h
      split at h
      · rename_i hkey
        rw [← hkey, ← Option.some.inj h]
        exact List.mem_cons_self
      · exact List.mem_cons_of_mem _ (ih h)

/-- A value is found exactly for the keys of the pairs. -/
theorem find_is_some_iff {key : κ} {pairs : List (κ × α)} :
    (find? key pairs).isSome ↔ ∃ value, (key, value) ∈ pairs := by
  constructor
  · intro h
    exact ⟨_, mem_of_find (Option.some_get h).symm⟩
  · rintro ⟨value, hmem⟩
    rw [find_eq_find_some, List.findSome?_isSome_iff]
    exact ⟨(key, value), hmem, by simp⟩

/-- Where a key determines its value, every pair is found. -/
theorem find_eq_some_of_mem {key : κ} {value : α} {pairs : List (κ × α)}
    (hsame : ∀ other, (key, other) ∈ pairs → other = value) (hmem : (key, value) ∈ pairs) :
    find? key pairs = some value := by
  obtain ⟨found, hfound⟩ := Option.isSome_iff_exists.mp (find_is_some_iff.mpr ⟨value, hmem⟩)
  rw [hfound, hsame found (mem_of_find hfound)]

/-- The pairs of a map are what its keys are looked up as. -/
theorem get_eq_some_iff {list : KeyedList κ α} {key : κ} {value : α} :
    list.get? key = some value ↔ (key, value) ∈ list.entries := by
  refine ⟨mem_of_find, fun hmem ↦ find_eq_some_of_mem ?_ hmem⟩
  intro other hother
  -- A second pair with the key would repeat it.
  exact (Prod.mk.inj (List.inj_on_of_nodup_map list.distinct hother hmem rfl)).2

/-- After entering pairs, a key has the value of the last pair with it, or else the one it had. -/
theorem get_insert_all (list : KeyedList κ α) (pairs : List (κ × α)) (key : κ) :
    (list.insertAll pairs).get? key = (find? key pairs.reverse).or (list.get? key) := by
  induction pairs generalizing list with
  | nil => rfl
  | cons pair rest ih =>
      have hstep : list.insertAll (pair :: rest) = (list.insert pair.1 pair.2).insertAll rest := rfl
      -- The first pair only counts when no later one has the key.
      rw [hstep, ih, get_insert, List.reverse_cons, find_append, Option.or_assoc]
      congr 1
      rw [find?, find?]
      split <;> rfl

/-- Entering two lists of pairs in turn is entering both at once. -/
theorem insert_all_append (list : KeyedList κ α) (first second : List (κ × α)) :
    list.insertAll (first ++ second) = (list.insertAll first).insertAll second :=
  List.foldl_append

/-! ## Values that determine their keys -/

/-- Every value stands at the key that it has by itself. -/
def KeyedBy (list : KeyedList κ α) (key : α → κ) : Prop :=
  ∀ pair ∈ list.entries, pair.1 = key pair.2

variable {list : KeyedList κ α} {key : α → κ}

/-- Writing adds no pair but the one that is written. -/
theorem mem_put {k : κ} {value : α} {pairs : List (κ × α)} {pair : κ × α}
    (h : pair ∈ put k value pairs) : pair = (k, value) ∨ pair ∈ pairs := by
  induction pairs with
  | nil => exact Or.inl (List.mem_singleton.mp h)
  | cons first rest ih =>
      obtain ⟨other, a⟩ := first
      rw [put] at h
      split at h
      · rename_i hkey
        rcases List.mem_cons.mp h with hpair | hrest
        · exact Or.inl (by rw [hpair, hkey])
        · exact Or.inr (List.mem_cons_of_mem _ hrest)
      · rcases List.mem_cons.mp h with hpair | hrest
        · exact Or.inr (hpair ▸ List.mem_cons_self)
        · exact (ih hrest).imp_right (List.mem_cons_of_mem _)

/-- A value entered under its own key keeps the values at their keys. -/
theorem KeyedBy.insert (h : list.KeyedBy key) {k : κ} {value : α} (hvalue : k = key value) :
    (list.insert k value).KeyedBy key := by
  intro pair hpair
  rcases mem_put hpair with rfl | hold
  · exact hvalue
  · exact h pair hold

/-- So do values entered one after the other, each under its own key. -/
theorem KeyedBy.insert_all (h : list.KeyedBy key) {pairs : List (κ × α)}
    (hpairs : ∀ pair ∈ pairs, pair.1 = key pair.2) : (list.insertAll pairs).KeyedBy key := by
  induction pairs generalizing list with
  | nil => exact h
  | cons pair rest ih =>
      exact ih (h.insert (hpairs pair List.mem_cons_self))
        fun other hother ↦ hpairs other (List.mem_cons_of_mem _ hother)

/-- Each value is found under its own key. -/
theorem KeyedBy.get_of_mem (h : list.KeyedBy key) {value : α} (hvalue : value ∈ list.values) :
    list.get? (key value) = some value := by
  obtain ⟨⟨k, a⟩, hpair, rfl⟩ := List.mem_map.mp hvalue
  have hkey : k = key a := h _ hpair
  exact get_eq_some_iff.mpr (hkey ▸ hpair)

/-- What is found under a key is a value with that key. -/
theorem KeyedBy.mem_of_get (h : list.KeyedBy key) {k : κ} {value : α}
    (hfound : list.get? k = some value) : value ∈ list.values ∧ key value = k := by
  have hpair := mem_of_find hfound
  exact ⟨List.mem_map.mpr ⟨_, hpair, rfl⟩, (h _ hpair).symm⟩

/-- The keys of the values are all different. -/
theorem KeyedBy.nodup {κ α : Type} {list : KeyedList κ α} {key : α → κ} (h : list.KeyedBy key) :
    (list.values.map key).Nodup := by
  have hkeys : list.values.map key = list.entries.map Prod.fst := by
    rw [values, List.map_map]
    exact List.map_congr_left fun pair hpair ↦ (h pair hpair).symm
  rw [hkeys]
  exact list.distinct

end EndpointGuard.KeyedList
