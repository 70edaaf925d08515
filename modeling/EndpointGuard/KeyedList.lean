/-!
# Keyed lists

Finite maps that remember the order in which their keys were first entered. `get_insert` says what
an entry changes: the value of its own key and no other.
-/

namespace EndpointGuard

/-- Pairs of keys and values in which no key occurs twice. -/
structure KeyedList (κ : Type) (α : Type) where
  entries : List (κ × α)
  distinct : (entries.map Prod.fst).Nodup := by simp
deriving DecidableEq

namespace KeyedList

variable {κ α : Type} [DecidableEq κ]

/-- The map without entries. -/
def empty : KeyedList κ α where
  entries := []

/-- The values in the order in which their keys were first entered. -/
def values (list : KeyedList κ α) : List α :=
  list.entries.map Prod.snd

/-- The number of keys. -/
def size (list : KeyedList κ α) : Nat :=
  list.entries.length

/-- The value at the first pair with the key. -/
def find? (key : κ) : List (κ × α) → Option α
  | [] => none
  | (k, a) :: rest => if k = key then some a else find? key rest

/-- The value entered for the key. -/
def get? (list : KeyedList κ α) (key : κ) : Option α :=
  find? key list.entries

/-- Write the value at the pair with the key, or behind all pairs if there is none. -/
def put (key : κ) (value : α) : List (κ × α) → List (κ × α)
  | [] => [(key, value)]
  | (k, a) :: rest => if k = key then (k, value) :: rest else (k, a) :: put key value rest

/-- Writing keeps the keys, except that a new one comes last. -/
theorem map_fst_put (key : κ) (value : α) (pairs : List (κ × α)) :
    (put key value pairs).map Prod.fst =
      if key ∈ pairs.map Prod.fst then pairs.map Prod.fst else pairs.map Prod.fst ++ [key] := by
  induction pairs with
  | nil => simp [put]
  | cons pair rest ih =>
    obtain ⟨k, a⟩ := pair
    unfold put
    split
    · simp_all
    · rename_i h
      have hne : ¬ key = k := fun e ↦ h e.symm
      simp only [List.map_cons, ih, List.mem_cons, hne, false_or]
      split <;> simp

/-- Enter a value for a key; the last value entered for a key is the one that stays. -/
def insert (list : KeyedList κ α) (key : κ) (value : α) : KeyedList κ α where
  entries := put key value list.entries
  distinct := by
    rw [map_fst_put]
    split
    · exact list.distinct
    · rename_i h
      rw [List.nodup_append]
      refine ⟨list.distinct, by simp, ?_⟩
      intro a ha b hb hab
      exact h (by simp_all)

/-- Enter pairs one after the other. -/
def insertAll (list : KeyedList κ α) (pairs : List (κ × α)) : KeyedList κ α :=
  pairs.foldl (fun list pair ↦ list.insert pair.1 pair.2) list

/-- The map of a list of pairs, the last value of each key counting. -/
def ofList (pairs : List (κ × α)) : KeyedList κ α :=
  empty.insertAll pairs

/-- Looking up after writing gives the written value at its key and the old value elsewhere. -/
theorem find_put (key other : κ) (value : α) (pairs : List (κ × α)) :
    find? other (put key value pairs) =
      if key = other then some value else find? other pairs := by
  induction pairs with
  | nil => rfl
  | cons pair rest ih =>
    obtain ⟨k, a⟩ := pair
    unfold put
    split
    · rename_i h
      subst h
      simp only [find?]
      split <;> rfl
    · rename_i h
      simp only [find?, ih]
      split
      · rename_i hk
        subst hk
        split
        · rename_i hkey
          exact absurd hkey.symm h
        · rfl
      · rfl

/-- An entry determines the value of its key and leaves every other key alone. -/
theorem get_insert (list : KeyedList κ α) (key other : κ) (value : α) :
    (list.insert key value).get? other = if key = other then some value else list.get? other :=
  find_put key other value list.entries

/-- The empty map has no value for any key. -/
theorem get_empty (key : κ) : (empty : KeyedList κ α).get? key = none :=
  rfl

end KeyedList

end EndpointGuard
