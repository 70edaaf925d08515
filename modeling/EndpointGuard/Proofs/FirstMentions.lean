import Mathlib.Data.List.Basic
import EndpointGuard.NameSet

/-!
# Names in the order of their first mention

What a set of names keeps of the names that were added to it, over any number of additions.
`FirstMentions` says it without the set: each name once, where it was first mentioned. Read
`FirstMentions.run` first: it holds of every state that grows a set with each of its steps.
-/

namespace EndpointGuard

/-- The names that are kept of those added: every mention but the first one of its name is left out.
None is repeated and none is missing, and of two names the one that was mentioned first stands in
front. -/
structure FirstMentions (added kept : List String) : Prop where
  eq_erase_dups : kept = added.eraseDups
  nodup : kept.Nodup
  mem_iff : ∀ name, name ∈ kept ↔ name ∈ added
  by_place : kept.Pairwise fun earlier later ↦ added.idxOf earlier < added.idxOf later

/-! ## A set of names -/

namespace FirstMentions

variable {set : NameSet} {added : List String}

/-- Nothing is kept of nothing. -/
theorem nil : FirstMentions [] [] where
  eq_erase_dups := rfl
  nodup := .nil
  mem_iff _ := .rfl
  by_place := .nil

/-- A set that keeps the first mentions is the set of the names added. -/
theorem eq_of_list (h : FirstMentions added set.names) : set = .ofList added := by
  ext1
  rw [h.eq_erase_dups, NameSet.names_of_list]

/-- A further name is kept behind the others unless it was mentioned before. -/
theorem insert (h : FirstMentions added set.names) (name : String) :
    FirstMentions (added ++ [name]) (set.insert name).names where
  eq_erase_dups := by
    rw [← NameSet.names_of_list, NameSet.ofList, NameSet.insert_all_append, ← NameSet.ofList,
      ← h.eq_of_list]
    rfl
  nodup := (set.insert name).distinct
  mem_iff other := by
    rw [NameSet.mem_names_insert, h.mem_iff, List.mem_append, List.mem_singleton]
  by_place := by
    -- What was mentioned before keeps its place.
    have hplace : ∀ other ∈ set.names, (added ++ [name]).idxOf other = added.idxOf other :=
      fun other hother ↦ List.idxOf_append_of_mem ((h.mem_iff other).mp hother)
    have hbefore : set.names.Pairwise fun earlier later ↦
        (added ++ [name]).idxOf earlier < (added ++ [name]).idxOf later := by
      refine h.by_place.imp_of_mem fun hearlier hlater hlt ↦ ?_
      rw [hplace _ hearlier, hplace _ hlater]
      exact hlt
    rw [NameSet.names_insert]
    split
    · exact hbefore
    · rename_i hnew
      have hlast : added.length ≤ (added ++ [name]).idxOf name := by
        rw [List.idxOf_append_of_notMem ((h.mem_iff name).not.mp hnew)]
        exact Nat.le_add_right _ _
      refine List.pairwise_append.mpr ⟨hbefore, List.pairwise_singleton _ _, ?_⟩
      intro earlier hearlier later hlater
      rw [List.mem_singleton.mp hlater, hplace _ hearlier]
      have hlt := List.idxOf_lt_length_of_mem ((h.mem_iff earlier).mp hearlier)
      omega

/-- The first mentions of further names are kept behind those of the ones before. -/
theorem insert_all (h : FirstMentions added set.names) (names : List String) :
    FirstMentions (added ++ names) (set.insertAll names).names := by
  induction names generalizing set added with
  | nil =>
      rw [List.append_nil]
      exact h
  | cons name rest ih =>
      have hrest := ih (h.insert name)
      rw [List.append_assoc, List.singleton_append] at hrest
      exact hrest

/-- A set keeps the first mentions of its own names. -/
theorem self (set : NameSet) : FirstMentions set.names set.names := by
  have hempty : FirstMentions [] NameSet.empty.names := .nil
  have hown := hempty.insert_all set.names
  rw [List.nil_append, ← NameSet.ofList, NameSet.of_list_names] at hown
  exact hown

end FirstMentions

/-! ## Names that are there already -/

/-- Adding names changes nothing exactly when all of them are there. -/
theorem NameSet.insert_all_eq_self_iff (set : NameSet) (added : List String) :
    set.insertAll added = set ↔ ∀ name ∈ added, name ∈ set.names := by
  constructor
  · intro h name hmem
    rw [← h]
    exact (mem_names_insert_all set added name).mpr (.inr hmem)
  · intro h
    have hnone : added.filter (· ∉ set.names) = [] := by
      rw [List.filter_eq_nil_iff]
      intro name hmem
      simpa using h name hmem
    ext1
    rw [names_insert_all, fresh_eq, hnone]
    simp

/-! ## States with a set of names -/

variable {σ κ : Type} (read : σ → NameSet) {step : σ → κ → σ} {adds : κ → List String}

/-- Steps that each add names to a set add them as one list. -/
theorem NameSet.read_run
    (hstep : ∀ state call, read (step state call) = (read state).insertAll (adds call))
    (state : σ) (calls : List κ) :
    read (calls.foldl step state) = (read state).insertAll (calls.flatMap adds) := by
  induction calls generalizing state with
  | nil => rfl
  | cons call rest ih =>
      rw [List.foldl_cons, ih, hstep, List.flatMap_cons, insert_all_append]

/-- After steps that each add names to a set, it keeps the first mentions of the names it had and of
all that were added. -/
theorem FirstMentions.run
    (hstep : ∀ state call, read (step state call) = (read state).insertAll (adds call))
    (state : σ) (calls : List κ) :
    FirstMentions ((read state).names ++ calls.flatMap adds)
      (read (calls.foldl step state)).names := by
  rw [NameSet.read_run read hstep]
  exact (FirstMentions.self (read state)).insert_all (calls.flatMap adds)

end EndpointGuard
