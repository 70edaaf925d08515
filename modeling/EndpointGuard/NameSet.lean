/-!
# Ordered sets of names

Role and authority names are granted one after the other, and granting a name twice changes
nothing. A `NameSet` keeps the names in the order in which they were first added. The main
statement is `names_insert_all`: adding a list of names appends those that were not present, each
once.
-/

namespace EndpointGuard

/-- Distinct names in the order of their first addition. -/
structure NameSet where
  names : List String
  distinct : names.Nodup := by simp
deriving DecidableEq

namespace NameSet

/-- The set without names. -/
def empty : NameSet where
  names := []

/-- The name is in the set. -/
def contains (set : NameSet) (name : String) : Bool :=
  name ∈ set.names

/-- Add a name behind the present ones, unless it is present. -/
def insert (set : NameSet) (name : String) : NameSet :=
  if h : name ∈ set.names then
    set
  else
    { names := set.names ++ [name]
      distinct := by
        rw [List.nodup_append]
        refine ⟨set.distinct, by simp, ?_⟩
        intro a ha b hb hab
        exact h (by simp_all) }

/-- Add names one after the other. -/
def insertAll (set : NameSet) (added : List String) : NameSet :=
  added.foldl insert set

/-- The distinct names of a list. -/
def ofList (added : List String) : NameSet :=
  empty.insertAll added

/-- Two sets with the same names in the same order are equal. -/
@[ext]
theorem ext {left right : NameSet} (h : left.names = right.names) : left = right := by
  cases left
  cases right
  simpa using h

/-- Adding a name appends it exactly when it was missing. -/
theorem names_insert (set : NameSet) (name : String) :
    (set.insert name).names =
      if name ∈ set.names then set.names else set.names ++ [name] := by
  unfold insert
  split <;> rfl

/-- A name is in the extended set when it was there before or is the one added. -/
theorem mem_names_insert (set : NameSet) (added name : String) :
    name ∈ (set.insert added).names ↔ name ∈ set.names ∨ name = added := by
  rw [names_insert]
  split
  · constructor
    · exact Or.inl
    · rintro (h | rfl) <;> assumption
  · simp

/-- A name is in the extended set when it was there before or is one of those added. -/
theorem mem_names_insert_all (set : NameSet) (added : List String) (name : String) :
    name ∈ (set.insertAll added).names ↔ name ∈ set.names ∨ name ∈ added := by
  induction added generalizing set with
  | nil => simp [insertAll]
  | cons first rest ih =>
    have step : set.insertAll (first :: rest) = (set.insert first).insertAll rest := rfl
    rw [step, ih, mem_names_insert, List.mem_cons, or_assoc]

/-- The names that `added` brings beyond those `known`, each at its first place. -/
def fresh (known : List String) : List String → List String
  | [] => []
  | name :: rest =>
    if name ∈ known then fresh known rest else name :: fresh (known ++ [name]) rest

/-- Adding names appends the ones that are fresh. -/
theorem names_insert_all (set : NameSet) (added : List String) :
    (set.insertAll added).names = set.names ++ fresh set.names added := by
  induction added generalizing set with
  | nil => simp [insertAll, fresh]
  | cons name rest ih =>
    have step : set.insertAll (name :: rest) = (set.insert name).insertAll rest := rfl
    rw [step, ih, names_insert, fresh]
    split <;> simp

/-- The fresh names are those not known, each at its first place. -/
theorem fresh_eq (known added : List String) :
    fresh known added = (added.filter (· ∉ known)).eraseDups := by
  induction added generalizing known with
  | nil => rfl
  | cons name rest ih =>
    rw [fresh]
    split
    · rename_i hknown
      rw [ih, List.filter_cons_of_neg (by simpa using hknown)]
    · rename_i hnew
      rw [ih, List.filter_cons_of_pos (by simpa using hnew), List.eraseDups_cons,
        List.filter_filter]
      congr 2
      refine List.filter_congr fun other _ ↦ ?_
      rw [Bool.eq_iff_iff]
      simp [and_comm]

/-- The set of a list has the names of the list, each at its first place. -/
theorem names_of_list (added : List String) : (ofList added).names = added.eraseDups := by
  have hall : added.filter (· ∉ empty.names) = added :=
    List.filter_eq_self.mpr fun _ _ ↦ by simp [empty]
  rw [ofList, names_insert_all, fresh_eq, hall]
  rfl

/-- Distinct names all stand at their first places. -/
theorem erase_dups_of_nodup {names : List String} (h : names.Nodup) : names.eraseDups = names := by
  induction names with
  | nil => rfl
  | cons name rest ih =>
    obtain ⟨hfirst, hrest⟩ := List.nodup_cons.mp h
    have hothers : rest.filter (fun other ↦ !other == name) = rest := by
      rw [List.filter_eq_self]
      intro other hother
      have hne : other ≠ name := fun h ↦ hfirst (h ▸ hother)
      simpa using hne
    rw [List.eraseDups_cons, hothers, ih hrest]

/-- A set is the set of its names. -/
theorem of_list_names (set : NameSet) : ofList set.names = set := by
  ext1
  rw [names_of_list, erase_dups_of_nodup set.distinct]

/-- Adding two lists in turn is adding their concatenation. -/
theorem insert_all_append (set : NameSet) (first second : List String) :
    set.insertAll (first ++ second) = (set.insertAll first).insertAll second :=
  List.foldl_append

end NameSet

end EndpointGuard
