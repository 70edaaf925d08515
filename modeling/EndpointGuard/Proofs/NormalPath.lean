import EndpointGuard.Settings
import EndpointGuard.Proofs.CallPath

/-!
# The normal form of the configured path

A path that is set loses the blanks around it, then the slashes at its end, and gets a slash in
front. `IsNormalPath` describes the paths that this leaves alone. Read `set_path_again_iff` first:
setting a path that was set before changes nothing, unless a blank stands before the slashes at the
end of the text that was given first, since the slashes go and the blank stays.
-/

namespace EndpointGuard

/-- A path begins with a slash, has no blank at either end, and no slash at its end unless it is the
root. -/
structure IsNormalPath (path : String) : Prop where
  slash_front : path.toList.head? = some '/'
  trimmed : Text.trim path = path
  slash_end : path.toList.getLast? = some '/' → path = "/"

/-- Without the blanks around it, the text ends with slashes that a blank stands before. -/
def BlankBeforeSlashes (given : String) : Prop :=
  ∃ front blank n, Text.isBlank blank = true ∧
    Text.trimChars given.toList = front ++ blank :: List.replicate (n + 1) '/'

/-- What is left of a text without the blanks around it and the slashes at its end. -/
def innerPath (given : String) : List Char :=
  Text.dropEnd (· = '/') (Text.trimChars given.toList)

/-! ## Dropped ends -/

/-- A slash is no blank. -/
theorem slash_not_blank : Text.isBlank '/' = false := by
  decide

/-- The text without the blanks around it does not end with a blank. -/
theorem trim_chars_last {text : List Char} {c : Char}
    (h : (Text.trimChars text).getLast? = some c) : Text.isBlank c = false :=
  Text.drop_end_last h

/-- Only trailing blanks can go from a text that begins with a slash. -/
theorem trim_chars_of_slash {text : List Char} (h : text.head? = some '/') :
    Text.trimChars text = Text.dropEnd Text.isBlank text := by
  obtain ⟨rest, rfl⟩ := List.head?_eq_some_iff.mp h
  rw [Text.trimChars, List.dropWhile_cons_of_neg (by simp [slash_not_blank])]

/-- Without the blanks around it, a beginning is left of a text that begins with a slash. -/
theorem trim_chars_beginning {text : List Char} (h : text.head? = some '/') :
    Text.trimChars text <+: text := by
  rw [trim_chars_of_slash h]
  exact Text.drop_end_prefix _ _

/-- A text that begins with a slash still does so without the blanks around it. -/
theorem trim_chars_head {text : List Char} (h : text.head? = some '/') :
    (Text.trimChars text).head? = some '/' := by
  have hne : Text.dropEnd Text.isBlank text ≠ [] := by
    intro hnil
    have hall := Text.drop_end_eq_nil_iff.mp hnil
    have hslash := hall '/' (List.mem_of_head? h)
    rw [slash_not_blank] at hslash
    cases hslash
  rw [trim_chars_of_slash h, Text.head_of_prefix (Text.drop_end_prefix _ _) hne, h]

/-! ## The path that is set -/

/-- A slash is put in front of the inner path unless it has one. -/
theorem to_list_normalize_path (given : String) :
    (normalizePath given).toList =
      if (innerPath given).head? = some '/' then innerPath given else '/' :: innerPath given := by
  unfold normalizePath
  dsimp only
  split
  · rename_i rest h
    rw [String.toList_ofList, innerPath, h]
    simp
  · rename_i h
    rw [if_neg]
    · rw [String.toList_ofList, innerPath]
    · intro hhead
      obtain ⟨rest, hrest⟩ := List.head?_eq_some_iff.mp hhead
      exact h rest hrest

/-- A path that is set begins with a slash. -/
theorem normalize_path_head (given : String) :
    (normalizePath given).toList.head? = some '/' := by
  rw [to_list_normalize_path]
  split
  · assumption
  · rfl

/-- It ends like the inner path, which may be empty behind the slash in front. -/
theorem normalize_path_last (given : String) :
    (normalizePath given).toList.getLast? = some ((innerPath given).getLast?.getD '/') := by
  rw [to_list_normalize_path]
  cases hinner : innerPath given with
  | nil => rfl
  | cons c rest => split <;> simp [List.getLast?_cons]

/-- A path that is set has a slash at its end exactly when it is the root. -/
theorem normalize_path_slash_end_iff (given : String) :
    (normalizePath given).toList.getLast? = some '/' ↔ normalizePath given = "/" := by
  refine ⟨fun h ↦ ?_, fun h ↦ by rw [h]; rfl⟩
  rw [normalize_path_last] at h
  cases hlast : (innerPath given).getLast? with
  | some c =>
      rw [hlast] at h
      have hslash : c ≠ '/' := by simpa using Text.drop_end_last hlast
      exact absurd (by simpa using h) hslash
  | none =>
      have hinner := List.getLast?_eq_none_iff.mp hlast
      rw [← String.toList_inj, to_list_normalize_path, hinner]
      rfl

/-- The root is what is set for nothing but slashes. -/
theorem normalize_path_eq_root_iff (given : String) :
    normalizePath given = "/" ↔ ∀ c ∈ Text.trimChars given.toList, c = '/' := by
  have hinner : innerPath given = [] ↔ ∀ c ∈ Text.trimChars given.toList, c = '/' := by
    rw [innerPath, Text.drop_end_eq_nil_iff]
    simp
  rw [← normalize_path_slash_end_iff, normalize_path_last, ← hinner]
  cases hlast : (innerPath given).getLast? with
  | none => simp [List.getLast?_eq_none_iff.mp hlast]
  | some c =>
      have hslash : c ≠ '/' := by simpa using Text.drop_end_last hlast
      have hne : innerPath given ≠ [] := by
        intro hnil
        rw [hnil] at hlast
        cases hlast
      simp [hslash, hne]

/-- Setting a path that begins with a slash leaves a beginning of it without trailing blanks. -/
theorem normalize_path_shortens {path : String} (h : path.toList.head? = some '/') :
    (normalizePath path).toList <+: Text.trimChars path.toList := by
  have hinner : innerPath path <+: Text.trimChars path.toList := Text.drop_end_prefix _ _
  have hhead := trim_chars_head h
  rw [to_list_normalize_path]
  by_cases hnil : innerPath path = []
  · -- Nothing but slashes is left, and one of them is kept.
    obtain ⟨rest, hrest⟩ := List.head?_eq_some_iff.mp hhead
    rw [hnil, hrest]
    exact ⟨rest, rfl⟩
  · rw [if_pos (by rw [Text.head_of_prefix hinner hnil, hhead])]
    exact hinner

/-- Setting a path changes nothing exactly when it is in normal form. -/
theorem normalize_path_eq_self_iff (path : String) :
    normalizePath path = path ↔ IsNormalPath path := by
  constructor
  · intro h
    have hhead : path.toList.head? = some '/' := h ▸ normalize_path_head path
    have hshort := normalize_path_shortens hhead
    rw [h] at hshort
    have hsame := (trim_chars_beginning hhead).eq_of_length_le hshort.length_le
    refine ⟨hhead, ?_, fun hslash ↦ ?_⟩
    · rw [Text.trim, hsame, String.ofList_toList]
    · rw [← h] at hslash ⊢
      exact (normalize_path_slash_end_iff path).mp hslash
  · intro h
    have htrim : Text.trimChars path.toList = path.toList := by
      have hchars := congrArg String.toList h.trimmed
      simpa [Text.trim] using hchars
    by_cases hroot : path = "/"
    · rw [hroot]
      rfl
    · have hinner : innerPath path = path.toList := by
        rw [innerPath, htrim]
        refine Text.drop_end_of_last fun c hlast ↦ ?_
        have hslash : c ≠ '/' := by
          rintro rfl
          exact hroot (h.slash_end hlast)
        simpa using hslash
      rw [← String.toList_inj, to_list_normalize_path, hinner, if_pos h.slash_front]

/-! ## Setting a path again -/

/-- The inner path ends with a blank exactly where a blank stands before the slashes. -/
theorem inner_path_blank_iff (given : String) :
    (∃ blank, (innerPath given).getLast? = some blank ∧ Text.isBlank blank = true) ↔
      BlankBeforeSlashes given := by
  constructor
  · rintro ⟨blank, hlast, hblank⟩
    obtain ⟨front, hfront⟩ := List.getLast?_eq_some_iff.mp hlast
    obtain ⟨n, htrim⟩ := Text.drop_end_append '/' (Text.trimChars given.toList)
    rw [← innerPath.eq_1, hfront] at htrim
    cases n with
    | zero =>
        -- Without a slash behind it, the blank would have gone with the others.
        have hgone := trim_chars_last (c := blank) (by rw [htrim]; simp)
        rw [hblank] at hgone
        cases hgone
    | succ n => exact ⟨front, blank, n, hblank, by rw [htrim]; simp⟩
  · rintro ⟨front, blank, n, hblank, htrim⟩
    have hslash : blank ≠ '/' := by
      rintro rfl
      rw [slash_not_blank] at hblank
      cases hblank
    have hinner : innerPath given = front ++ [blank] := by
      calc innerPath given
          = Text.dropEnd (· = '/') ((front ++ [blank]) ++ List.replicate (n + 1) '/') := by
            rw [innerPath, htrim, List.append_assoc, List.singleton_append]
        _ = Text.dropEnd (· = '/') (front ++ [blank]) :=
            Text.drop_end_append_of_all _ (by simp)
        _ = front ++ [blank] := Text.drop_end_of_last (by simpa using hslash)
    exact ⟨blank, by simp [hinner], hblank⟩

/-- A path that is set is in normal form unless a blank stands before the slashes of the text that
was given. -/
theorem is_normal_normalize_path_iff (given : String) :
    IsNormalPath (normalizePath given) ↔ ¬ BlankBeforeSlashes given := by
  rw [← inner_path_blank_iff]
  have hlast := normalize_path_last given
  constructor
  · rintro hnormal ⟨blank, hinner, hblank⟩
    -- In normal form the path ends like a text without blanks around it.
    have htrim := congrArg String.toList hnormal.trimmed
    rw [Text.trim, String.toList_ofList] at htrim
    rw [hinner, Option.getD_some, ← htrim] at hlast
    rw [trim_chars_last hlast] at hblank
    cases hblank
  · intro hnone
    refine ⟨normalize_path_head given, ?_, (normalize_path_slash_end_iff given).mp⟩
    rw [← String.toList_inj, Text.trim, String.toList_ofList,
      trim_chars_of_slash (normalize_path_head given)]
    refine Text.drop_end_of_last fun c hc ↦ ?_
    rw [hlast] at hc
    cases hinner : (innerPath given).getLast? with
    | none =>
        rw [hinner] at hc
        cases hc
        exact slash_not_blank
    | some d =>
        rw [hinner] at hc
        cases hc
        by_contra hblank
        exact hnone ⟨d, hinner, by simpa using hblank⟩

/-- Setting a path twice in a row is setting it once exactly where no blank stands before the
slashes. -/
theorem normalize_path_again_iff (given : String) :
    normalizePath (normalizePath given) = normalizePath given ↔ ¬ BlankBeforeSlashes given := by
  rw [normalize_path_eq_self_iff, is_normal_normalize_path_iff]

/-- Where a blank stands before the slashes, the path that is set again is a beginning of the first
one. -/
theorem normalize_path_shortened_iff (given : String) :
    (∃ tail, tail ≠ "" ∧ normalizePath given = normalizePath (normalizePath given) ++ tail) ↔
      BlankBeforeSlashes given := by
  constructor
  · rintro ⟨tail, hne, htail⟩
    by_contra hstable
    rw [(normalize_path_again_iff given).mpr hstable, ← String.toList_inj, String.toList_append,
      List.self_eq_append_right] at htail
    exact hne (by simpa using htail)
  · intro hblank
    have hhead := normalize_path_head given
    obtain ⟨tail, htail⟩ := (normalize_path_shortens hhead).trans (trim_chars_beginning hhead)
    refine ⟨String.ofList tail, ?_, ?_⟩
    · intro hnil
      rw [String.ofList_eq_empty_iff.mp hnil, List.append_nil, String.toList_inj] at htail
      exact (normalize_path_again_iff given).mp htail hblank
    · rw [← String.toList_inj, String.toList_append, String.toList_ofList, htail]

namespace Settings

/-- The path that settings have once it is set. -/
theorem path_of_set_path (settings : Settings) (given : String) :
    (settings.setPathPrefix given).pathPrefix = normalizePath given :=
  rfl

/-- Of two paths that are set, the later one counts. -/
theorem set_path_twice (settings : Settings) (first second : String) :
    (settings.setPathPrefix first).setPathPrefix second = settings.setPathPrefix second :=
  rfl

/-- Settings that differ in their path only are equal when the path is. -/
theorem set_path_eq_iff (settings : Settings) (first second : String) :
    settings.setPathPrefix first = settings.setPathPrefix second ↔
      normalizePath first = normalizePath second := by
  constructor
  · intro h
    simpa only [path_of_set_path] using congrArg pathPrefix h
  · intro h
    rw [setPathPrefix, setPathPrefix, h]

/-- Setting a path that was set before changes nothing, and the path is in normal form, exactly when
no blank stands before the slashes of the text that was given first. Otherwise only a beginning of
the path stays. In every case the path begins with a slash, and ends with one only as the root. -/
theorem set_path_again_iff (settings : Settings) (given : String) :
    ((settings.setPathPrefix given).setPathPrefix (settings.setPathPrefix given).pathPrefix =
        settings.setPathPrefix given ↔ ¬ BlankBeforeSlashes given) ∧
    (IsNormalPath (settings.setPathPrefix given).pathPrefix ↔ ¬ BlankBeforeSlashes given) ∧
    ((∃ tail, tail ≠ "" ∧ (settings.setPathPrefix given).pathPrefix =
        ((settings.setPathPrefix given).setPathPrefix
          (settings.setPathPrefix given).pathPrefix).pathPrefix ++ tail) ↔
      BlankBeforeSlashes given) ∧
    (settings.setPathPrefix given).pathPrefix.toList.head? = some '/' ∧
    ((settings.setPathPrefix given).pathPrefix.toList.getLast? = some '/' ↔
      (settings.setPathPrefix given).pathPrefix = "/") := by
  simp only [set_path_twice, set_path_eq_iff, path_of_set_path]
  exact ⟨normalize_path_again_iff given, is_normal_normalize_path_iff given,
    normalize_path_shortened_iff given, normalize_path_head given,
    normalize_path_slash_end_iff given⟩

/-- The path that is set for "/a /" ends with a blank, and setting it again moves the path under
which calls are recognised. -/
theorem set_path_again_moves :
    (standard.setPathPrefix "/a /").pathPrefix = "/a " ∧
    ((standard.setPathPrefix "/a /").setPathPrefix "/a ").pathPrefix = "/a" ∧
    (standard.setPathPrefix "/a /").setPathPrefix (standard.setPathPrefix "/a /").pathPrefix ≠
      standard.setPathPrefix "/a /" ∧
    ¬ IsNormalPath (standard.setPathPrefix "/a /").pathPrefix ∧
    CallPath.classify "/a/orders/count" "/a " = .outside ∧
    CallPath.classify "/a/orders/count" "/a" = .call "orders" "count" := by
  have hfirst : normalizePath "/a /" = "/a " := by decide +kernel
  have hsecond : normalizePath "/a " = "/a" := by decide +kernel
  refine ⟨hfirst, hsecond, fun hsame ↦ ?_, fun hnormal ↦ ?_, rfl, rfl⟩
  · have hpath := congrArg pathPrefix hsame
    simp only [path_of_set_path, hfirst, hsecond] at hpath
    exact absurd hpath (by decide)
  · have htrim := hnormal.trimmed
    simp only [path_of_set_path, hfirst] at htrim
    exact absurd htrim (by decide +kernel)

end Settings

end EndpointGuard
