import EndpointGuard.Http.Route
import EndpointGuard.Proofs.TextParts

/-!
# What patterns match

`Fits` describes the paths of a plain pattern by concatenation, each variable a text that its extent
allows. `match_parts_is_some_iff` says that matching accepts exactly these paths. `fits_filled`
finds a path that fits whatever the variables are, `call_pattern_of_plain` reads the pattern of the
calls under a path without variables, and `Router.ReadsPlain.anchored` says where in the path the
first variable of a plain pattern stands.
-/

namespace EndpointGuard.Http

/-- A text that a variable can stand for. -/
def Extent.Allows : Extent → List Char → Prop
  | .segment, piece => piece ≠ [] ∧ '/' ∉ piece
  | .anything, _ => True

/-- A path is put together from the parts of a pattern, with the given texts for its variables. -/
inductive Fits : List PatternPart → List Char → List (List Char) → Prop where
  | nil : Fits [] [] []
  | text (fixed : String) {parts rest found} :
      Fits parts rest found → Fits (.text fixed :: parts) (fixed.toList ++ rest) found
  | capture {extent piece parts rest found} :
      extent.Allows piece → Fits parts rest found →
      Fits (.capture extent :: parts) (piece ++ rest) (piece :: found)

/-! ## Matching -/

/-- The beginnings of a text are the parts in front that are not empty. -/
theorem mem_beginnings {piece text : List Char} :
    piece ∈ beginnings text ↔ piece ≠ [] ∧ piece <+: text := by
  simp only [beginnings, List.mem_map, List.mem_reverse, List.mem_range]
  constructor
  · rintro ⟨n, hn, rfl⟩
    refine ⟨?_, List.take_prefix _ _⟩
    intro h
    have hlength := congrArg List.length h
    simp only [List.length_take, List.length_nil] at hlength
    omega
  · rintro ⟨hne, hpiece⟩
    have hpos : 0 < piece.length := List.length_pos_iff.mpr hne
    have hle : piece.length ≤ text.length := hpiece.length_le
    refine ⟨piece.length - 1, by omega, ?_⟩
    rw [show piece.length - 1 + 1 = piece.length by omega]
    exact (List.prefix_iff_eq_take.mp hpiece).symm

/-- A text without slashes is in front of a path exactly when it is in front of the path up to its
first slash. -/
theorem prefix_take_while_iff {piece path : List Char} (hslash : '/' ∉ piece) :
    piece <+: path.takeWhile (· ≠ '/') ↔ piece <+: path := by
  constructor
  · intro h
    exact h.trans (List.takeWhile_prefix _)
  · rintro ⟨rest, rfl⟩
    rw [List.takeWhile_append_of_pos]
    · exact List.prefix_append _ _
    · intro c hc
      have hne : c ≠ '/' := fun e ↦ hslash (e ▸ hc)
      simpa using hne

/-- The pieces of a path that a variable can take are its beginnings that the variable can stand
for. -/
theorem Extent.mem_choices {extent : Extent} {piece path : List Char} :
    piece ∈ extent.choices path ↔ extent.Allows piece ∧ piece <+: path := by
  cases extent with
  | segment =>
      simp only [choices, Allows, mem_beginnings, and_assoc]
      refine and_congr_right fun _ ↦ ?_
      constructor
      · intro h
        have hslash : '/' ∉ piece := fun hmem ↦ Text.not_mem_take_while_ne '/' path (h.subset hmem)
        exact ⟨hslash, (prefix_take_while_iff hslash).mp h⟩
      · rintro ⟨hslash, h⟩
        exact (prefix_take_while_iff hslash).mpr h
  | anything =>
      simp only [choices, Allows, List.mem_append, List.mem_singleton, mem_beginnings, true_and]
      constructor
      · rintro (⟨_, h⟩ | rfl)
        · exact h
        · exact List.nil_prefix
      · intro h
        by_cases hne : piece = []
        · exact Or.inr hne
        · exact Or.inl ⟨hne, h⟩

/-- A match answers texts with which the path fits the pattern. -/
theorem fits_of_match_parts {parts : List PatternPart} {path : List Char}
    {found : List (List Char)} (h : matchParts parts path = some found) :
    Fits parts path found := by
  induction parts generalizing path found with
  | nil =>
      cases path with
      | nil =>
          cases h
          exact .nil
      | cons c path => simp [matchParts] at h
  | cons part parts ih =>
      cases part with
      | text fixed =>
          rw [matchParts] at h
          split at h
          · rename_i rest hrest
            obtain rfl := List.append_eq_of_isPrefixOf?_eq_some hrest
            exact .text fixed (ih h)
          · cases h
      | capture extent =>
          rw [matchParts] at h
          obtain ⟨piece, hpiece, hfound⟩ := List.exists_of_findSome?_eq_some h
          obtain ⟨hallows, rest, rfl⟩ := Extent.mem_choices.mp hpiece
          obtain ⟨others, hothers, rfl⟩ := Option.map_eq_some_iff.mp hfound
          rw [List.drop_left] at hothers
          exact .capture hallows (ih hothers)

/-- A path that fits a pattern is matched, possibly with other texts for its variables. -/
theorem Fits.is_some {parts : List PatternPart} {path : List Char} {found : List (List Char)}
    (h : Fits parts path found) : (matchParts parts path).isSome := by
  induction h with
  | nil => rfl
  | text fixed _ ih =>
      rw [matchParts, List.isPrefixOf?_eq_some_iff_append_eq.mpr rfl]
      exact ih
  | @capture extent piece parts rest found hallows _ ih =>
      -- The piece is among those that are tried, though a longer one may succeed before it.
      rw [matchParts, List.findSome?_isSome_iff]
      refine ⟨piece, Extent.mem_choices.mpr ⟨hallows, List.prefix_append _ _⟩, ?_⟩
      simpa using ih

/-- Matching accepts exactly the paths that fit the pattern. -/
theorem match_parts_is_some_iff {parts : List PatternPart} {path : List Char} :
    (matchParts parts path).isSome ↔ ∃ found, Fits parts path found := by
  constructor
  · intro h
    obtain ⟨found, hfound⟩ := Option.isSome_iff_exists.mp h
    exact ⟨found, fits_of_match_parts hfound⟩
  · rintro ⟨found, hfits⟩
    exact hfits.is_some

/-! ## Reading -/

/-- Every text of a variable is read as one variable. -/
theorem length_read_variables {texts : List (List Char)} {slots : List PatternVariable}
    (h : readVariables? texts = some slots) : slots.length = texts.length := by
  induction texts generalizing slots with
  | nil =>
      cases h
      rfl
  | cons text texts ih =>
      rw [readVariables?] at h
      split at h
      · rename_i first others hfirst hothers
        cases h
        simp [ih hothers]
      · cases h

/-- A plain pattern with a variable begins with the text in front of its first brace, and the rest
of its parts are those of its variables. -/
theorem pattern_parts_of_brace {fixed more : List Char} {parts : List PatternPart}
    (hfixed : '\x7b' ∉ fixed) (h : patternParts? (fixed ++ '\x7b' :: more) = some parts) :
    ∃ first others, parts =
      .text (String.ofList fixed) :: (first :: others).flatMap PatternVariable.parts := by
  rw [patternParts?, List.splitOn_append_cons_self_of_not_mem hfixed] at h
  dsimp only at h
  split at h
  · cases h
  · split at h
    · cases h
    · rename_i slots hread
      split at h
      · cases h
        have hlength := length_read_variables hread
        cases slots with
        | nil =>
            -- The brace is one that the text was split at, so some variable was read behind it.
            have hpos := List.length_pos_iff.mpr (List.splitOn_ne_nil '\x7b' more)
            simp only [List.length_nil] at hlength
            omega
        | cons first others => exact ⟨first, others, rfl⟩
      · cases h

/-- The path in which a letter stands for each variable. -/
def filled (slots : List PatternVariable) : List Char :=
  slots.flatMap fun found ↦ 'x' :: found.after

/-- A letter can stand for any variable. -/
theorem Extent.allows_letter (extent : Extent) : extent.Allows ['x'] := by
  cases extent with
  | segment => exact ⟨by decide, by decide⟩
  | anything => trivial

/-- A path with a letter for each variable fits the parts of the variables. -/
theorem fits_filled (slots : List PatternVariable) :
    Fits (slots.flatMap PatternVariable.parts) (filled slots)
      (slots.map fun _ ↦ ['x']) := by
  induction slots with
  | nil => exact .nil
  | cons first others ih =>
      have hfits := Fits.capture first.extent.allows_letter
        (Fits.text (String.ofList first.after) ih)
      simpa [filled, PatternVariable.parts] using hfits

/-! ## Routers -/

/-- The standard router reads plain patterns. -/
theorem standard_reads_plain : Router.standard.ReadsPlain := by
  intro pattern parts path hparts
  simp only [Router.standard, hparts]

/-- What stands for the first variable of a pattern stands in the path right behind the text in
front of that variable. -/
def Router.Anchored (router : Router) (pattern : String) : Prop :=
  ∀ front rest path found, (withSlash pattern).toList = front ++ '\x7b' :: rest →
    '\x7b' ∉ front → router.captures? pattern path = some found →
      ∃ first others, found = first :: others ∧ front ++ first <+: path.toList

/-- So it is in every plain pattern. -/
theorem Router.ReadsPlain.anchored {router : Router} (h : router.ReadsPlain) {pattern : String}
    (hplain : (patternParts? (withSlash pattern).toList).isSome) : router.Anchored pattern := by
  intro front rest path found htext hfront hfound
  obtain ⟨parts, hparts⟩ := Option.isSome_iff_exists.mp hplain
  rw [h pattern parts path hparts] at hfound
  rw [htext] at hparts
  obtain ⟨slot, others, rfl⟩ := pattern_parts_of_brace hfront hparts
  have hfits := fits_of_match_parts hfound
  generalize path.toList = chars at hfits
  cases hfits with
  | text _ hfits =>
      cases hfits with
      | @capture _ piece _ left found _ _ =>
          refine ⟨piece, found, rfl, left, ?_⟩
          simp

/-! ## The pattern of the calls -/

/-- A text that is not empty gets a slash in front unless it has one. -/
theorem to_list_with_slash {text : String} (hne : text ≠ "") :
    (withSlash text).toList =
      if text.toList.head? = some '/' then text.toList else '/' :: text.toList := by
  unfold withSlash
  split
  · rename_i h
    exact absurd (String.toList_eq_nil_iff.mp h) hne
  · rename_i h
    simp [h]
  · rename_i h
    rw [if_neg]
    · simp
    · intro hhead
      obtain ⟨rest, hrest⟩ := List.head?_eq_some_iff.mp hhead
      exact h rest hrest

/-- The pattern of the calls under a path is the path, with a slash on both sides, and two variables
with a slash between them. -/
theorem to_list_call_text (pathPrefix : String) :
    (withSlash (callText pathPrefix)).toList =
      (withSlash (pathPrefix ++ "/")).toList ++ "\x7bendpoint\x7d/\x7bmethod\x7d".toList := by
  rw [callText, to_list_with_slash (by simp), to_list_with_slash (by simp)]
  simp only [String.toList_append, List.head?_append]
  cases pathPrefix.toList with
  | nil => rfl
  | cons c rest =>
      by_cases h : c = '/'
      · simp [h]
      · simp [h]

/-- The parts of the pattern of the calls under a path, if it is plain. -/
def callPattern? (pathPrefix : String) : Option (List PatternPart) :=
  patternParts? (withSlash (callText pathPrefix)).toList

/-- The pattern of the calls under a path without variables is that path and two segments. -/
theorem call_pattern_of_plain {pathPrefix : String} (h : '\x7b' ∉ pathPrefix.toList) :
    callPattern? pathPrefix =
      some [.text (withSlash (pathPrefix ++ "/")), .capture .segment, .text "/", .capture .segment,
        .text ""] := by
  have hfixed : '\x7b' ∉ (withSlash (pathPrefix ++ "/")).toList := by
    rw [to_list_with_slash (by simp)]
    split <;> simpa using h
  have hlast : (withSlash (callText pathPrefix)).toList.getLast? = some '\x7d' := by
    rw [to_list_call_text, List.getLast?_append]
    rfl
  have hsplit : (withSlash (callText pathPrefix)).toList.splitOn '\x7b' =
      [(withSlash (pathPrefix ++ "/")).toList, "endpoint\x7d/".toList, "method\x7d".toList] := by
    rw [to_list_call_text,
      show "\x7bendpoint\x7d/\x7bmethod\x7d".toList =
        '\x7b' :: "endpoint\x7d/\x7bmethod\x7d".toList from by rfl,
      List.splitOn_append_cons_self_of_not_mem hfixed]
    rfl
  have hread : readVariables? ["endpoint\x7d/".toList, "method\x7d".toList] =
      some [⟨"endpoint".toList, .segment, "/".toList⟩, ⟨"method".toList, .segment, []⟩] := by
    decide
  rw [callPattern?, patternParts?, hlast, if_neg (by decide), hsplit]
  simp only [hread]
  rw [if_pos (by decide)]
  simp [PatternVariable.parts]

end EndpointGuard.Http
