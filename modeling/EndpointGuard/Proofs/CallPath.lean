import EndpointGuard.Gate.CallPath
import EndpointGuard.Proofs.TextParts

/-!
# What the classes of call paths mean

`CallPath.classify` against a description of paths by concatenation. `Holds` says what each class
means: a path outside is neither the configured path nor below it, a call is the configured path
followed by exactly two segments, and all else is malformed. Read `classify_eq_iff` first: a path
has the one class that holds of it.
-/

namespace EndpointGuard.CallPath

/-- The configured path without the slashes at its end. -/
def base (configured : String) : String :=
  String.ofList (Text.dropEnd (· = '/') configured.toList)

/-- The path is the configured one, or lies below it. -/
def Under (configured path : String) : Prop :=
  path = base configured ∨ ∃ rest, path = base configured ++ "/" ++ rest

/-- The text below the configured path that a path spells, empty for the configured path itself. -/
def Below (configured path rest : String) : Prop :=
  path = base configured ∧ rest = "" ∨ path = base configured ++ "/" ++ rest

/-- A text is cut at its first slash, or taken whole when it has none. -/
def Cut (rest endpoint method : String) : Prop :=
  '/' ∉ endpoint.toList ∧ (rest = endpoint ∧ method = "" ∨ rest = endpoint ++ "/" ++ method)

/-- The path is the configured one followed by two segments. -/
structure IsCall (configured path endpoint method : String) : Prop where
  path_eq : path = base configured ++ "/" ++ endpoint ++ "/" ++ method
  endpoint_ne : endpoint ≠ ""
  method_ne : method ≠ ""
  slash_not_mem_endpoint : '/' ∉ endpoint.toList
  slash_not_mem_method : '/' ∉ method.toList

/-- The text below the configured path is cut into two parts that are not two segments. -/
def IsMalformed (configured path endpoint method : String) : Prop :=
  ∃ rest, Below configured path rest ∧ Cut rest endpoint method ∧
    (endpoint = "" ∨ method = "" ∨ '/' ∈ method.toList)

/-- What a class says about a path. -/
def Holds (configured path : String) : CallPath → Prop
  | .outside => ¬ Under configured path
  | .call endpoint method => IsCall configured path endpoint method
  | .malformed endpoint method => IsMalformed configured path endpoint method

/-- The base is the configured path without the slashes at its end. -/
@[simp]
theorem to_list_base (configured : String) :
    (base configured).toList = Text.dropEnd (· = '/') configured.toList := by
  simp [base]

/-- The configured path is its base with slashes behind it. -/
theorem base_append_slashes (configured : String) :
    ∃ n, configured.toList = (base configured).toList ++ List.replicate n '/' := by
  simpa using Text.drop_end_append '/' configured.toList

/-- The base of the configured path reaches as far as any character that is not a slash. -/
theorem base_eq_append {configured : String} {front rest : List Char} {c : Char} (hc : c ≠ '/')
    (h : configured.toList = front ++ c :: rest) :
    ∃ tail, (base configured).toList = front ++ c :: tail := by
  obtain ⟨n, hbase⟩ := base_append_slashes configured
  rw [h] at hbase
  -- The slashes at the end do not reach back over a character that is none.
  have hslashes : ∀ left, left ++ c :: rest ≠ List.replicate n '/' := by
    intro left hleft
    have hmem : c ∈ List.replicate n '/' := by
      rw [← hleft]
      simp
    exact hc (List.eq_of_mem_replicate hmem)
  rcases List.append_eq_append_iff.mp hbase with ⟨left, hleft, hright⟩ | ⟨left, _, hright⟩
  · cases left with
    | nil => exact absurd hright (hslashes [])
    | cons d left =>
        obtain ⟨rfl, _⟩ := List.cons.inj hright
        exact ⟨left, hleft⟩
  · exact absurd hright.symm (hslashes left)

/-- A path is under the configured one exactly when it spells some text below it. -/
theorem under_iff_below (configured path : String) :
    Under configured path ↔ ∃ rest, Below configured path rest := by
  constructor
  · rintro (h | ⟨rest, h⟩)
    · exact ⟨"", Or.inl ⟨h, rfl⟩⟩
    · exact ⟨rest, Or.inr h⟩
  · rintro ⟨rest, ⟨h, _⟩ | h⟩
    · exact Or.inl h
    · exact Or.inr ⟨rest, h⟩

/-- A path spells at most one text below the configured one. -/
theorem Below.unique {configured path rest other : String} (h : Below configured path rest)
    (hother : Below configured path other) : rest = other := by
  simp only [Below, ← String.toList_inj, String.toList_append] at h hother ⊢
  rcases h with ⟨h, hrest⟩ | h <;> rcases hother with ⟨ho, hrestOther⟩ | ho <;> rw [h] at ho
  · rw [hrest, hrestOther]
  · simp at ho
  · simp at ho
  · simpa using ho

/-- A text is cut in one way only. -/
theorem Cut.unique {rest endpoint method first second : String} (h : Cut rest endpoint method)
    (hother : Cut rest first second) : endpoint = first ∧ method = second := by
  obtain ⟨hslash, h⟩ := h
  obtain ⟨hslashOther, hother⟩ := hother
  simp only [← String.toList_inj, String.toList_append] at h hother ⊢
  rcases h with ⟨h, hm⟩ | h <;> rcases hother with ⟨ho, hs⟩ | ho <;> rw [h] at ho
  · exact ⟨ho, by rw [hm, hs]⟩
  · exact absurd (by simp [ho]) hslash
  · exact absurd (by simp [← ho]) hslashOther
  · have hinj := Text.append_cons_inj (c := '/') hslash hslashOther (by simpa using ho)
    exact hinj

/-- Two segments are the cut of the text that they spell with a slash between them. -/
theorem IsCall.below_cut {configured path endpoint method : String}
    (h : IsCall configured path endpoint method) :
    ∃ rest, Below configured path rest ∧ Cut rest endpoint method := by
  refine ⟨endpoint ++ "/" ++ method, Or.inr ?_, h.slash_not_mem_endpoint, Or.inr rfl⟩
  rw [h.path_eq]
  simp [String.append_assoc]

/-- A call is under the configured path. -/
theorem IsCall.under {configured path endpoint method : String}
    (h : IsCall configured path endpoint method) : Under configured path := by
  obtain ⟨rest, hbelow, _⟩ := h.below_cut
  exact (under_iff_below configured path).mpr ⟨rest, hbelow⟩

/-- A malformed call is under the configured path. -/
theorem IsMalformed.under {configured path endpoint method : String}
    (h : IsMalformed configured path endpoint method) : Under configured path := by
  obtain ⟨rest, hbelow, _⟩ := h
  exact (under_iff_below configured path).mpr ⟨rest, hbelow⟩

/-- A path is a call of one endpoint and one method only. -/
theorem IsCall.unique {configured path endpoint method first second : String}
    (h : IsCall configured path endpoint method) (hother : IsCall configured path first second) :
    endpoint = first ∧ method = second := by
  obtain ⟨rest, hbelow, hcut⟩ := h.below_cut
  obtain ⟨other, hbelowOther, hcutOther⟩ := hother.below_cut
  cases hbelow.unique hbelowOther
  exact hcut.unique hcutOther

/-- A call is not malformed. -/
theorem IsCall.not_malformed {configured path endpoint method first second : String}
    (h : IsCall configured path endpoint method) : ¬ IsMalformed configured path first second := by
  rintro ⟨other, hbelowOther, hcutOther, hparts⟩
  obtain ⟨rest, hbelow, hcut⟩ := h.below_cut
  cases hbelow.unique hbelowOther
  obtain ⟨rfl, rfl⟩ := hcut.unique hcutOther
  rcases hparts with he | hm | hs
  · exact h.endpoint_ne he
  · exact h.method_ne hm
  · exact h.slash_not_mem_method hs

/-- A malformed call is malformed in one way only. -/
theorem IsMalformed.unique {configured path endpoint method first second : String}
    (h : IsMalformed configured path endpoint method)
    (hother : IsMalformed configured path first second) : endpoint = first ∧ method = second := by
  obtain ⟨rest, hbelow, hcut, _⟩ := h
  obtain ⟨other, hbelowOther, hcutOther, _⟩ := hother
  cases hbelow.unique hbelowOther
  exact hcut.unique hcutOther

/-- A text below the configured path that is cut into two parts is a call or malformed. -/
theorem below_cut_iff {configured path endpoint method : String} :
    (∃ rest, Below configured path rest ∧ Cut rest endpoint method) ↔
      IsCall configured path endpoint method ∨ IsMalformed configured path endpoint method := by
  constructor
  · rintro ⟨rest, hbelow, hcut⟩
    by_cases hparts : endpoint = "" ∨ method = "" ∨ '/' ∈ method.toList
    · exact Or.inr ⟨rest, hbelow, hcut, hparts⟩
    · rw [not_or, not_or] at hparts
      obtain ⟨hendpoint, hmethod, hslash⟩ := hparts
      obtain ⟨hfirst, ⟨_, hm⟩ | hrest⟩ := hcut
      · exact absurd hm hmethod
      · rcases hbelow with ⟨_, he⟩ | hpath
        · rw [he] at hrest
          exact absurd (congrArg String.toList hrest) (by simp)
        · refine Or.inl ⟨?_, hendpoint, hmethod, hfirst, hslash⟩
          rw [hpath, hrest]
          simp [String.append_assoc]
  · rintro (h | ⟨rest, hbelow, hcut, _⟩)
    · exact h.below_cut
    · exact ⟨rest, hbelow, hcut⟩

/-- At most one class holds of a path. -/
theorem Holds.unique {configured path : String} {found other : CallPath}
    (h : Holds configured path found) (hother : Holds configured path other) : found = other := by
  cases found <;> cases other
  case outside.outside => rfl
  case outside.call => exact absurd (IsCall.under hother) h
  case outside.malformed => exact absurd (IsMalformed.under hother) h
  case call.outside => exact absurd (IsCall.under h) hother
  case malformed.outside => exact absurd (IsMalformed.under h) hother
  case call.malformed => exact absurd hother (IsCall.not_malformed h)
  case malformed.call => exact absurd h (IsCall.not_malformed hother)
  case call.call =>
    obtain ⟨rfl, rfl⟩ := IsCall.unique h hother
    rfl
  case malformed.malformed =>
    obtain ⟨rfl, rfl⟩ := IsMalformed.unique h hother
    rfl

/-- Slashes behind the configured path do not matter for what is under it. -/
theorem under_of_append {configured path : String} {rest : List Char}
    (h : path.toList = configured.toList ++ '/' :: rest) : Under configured path := by
  obtain ⟨n, hbase⟩ := base_append_slashes configured
  have hshift : List.replicate n '/' ++ '/' :: rest = '/' :: (List.replicate n '/' ++ rest) := by
    rw [← List.cons_append, ← List.replicate_succ, List.replicate_succ']
    simp
  refine Or.inr ⟨String.ofList (List.replicate n '/' ++ rest), ?_⟩
  rw [← String.toList_inj, h, hbase, List.append_assoc, hshift]
  simp

/-- A path under the configured one begins with its base. -/
theorem Under.base_prefix {configured path : String} (h : Under configured path) :
    (base configured).toList <+: path.toList := by
  rcases h with rfl | ⟨rest, h⟩
  · exact List.prefix_rfl
  · rw [h, String.append_assoc, String.toList_append]
    exact List.prefix_append _ _

/-- Two segments behind the configured path as it is given are those of the call. -/
theorem IsCall.segments_eq {configured path endpoint method : String} {first second : List Char}
    (h : IsCall configured path endpoint method) (hfirst : '/' ∉ first)
    (hpath : path.toList = configured.toList ++ '/' :: (first ++ '/' :: second)) :
    first = endpoint.toList ∧ second = method.toList := by
  obtain ⟨n, hbase⟩ := base_append_slashes configured
  have hcall : path.toList =
      (base configured).toList ++ '/' :: (endpoint.toList ++ '/' :: method.toList) := by
    rw [h.path_eq]
    simp
  rw [hcall, hbase, List.append_assoc, List.append_cancel_left_eq] at hpath
  cases n with
  | zero =>
      have hsegments : endpoint.toList ++ '/' :: method.toList = first ++ '/' :: second := by
        simpa using hpath
      obtain ⟨hendpoint, hmethod⟩ :=
        Text.append_cons_inj h.slash_not_mem_endpoint hfirst hsegments
      exact ⟨hendpoint.symm, hmethod.symm⟩
  | succ n =>
      -- A further slash would stand at the beginning of the endpoint.
      have hsegments : endpoint.toList ++ '/' :: method.toList =
          List.replicate n '/' ++ '/' :: (first ++ '/' :: second) := by
        simpa [List.replicate_succ] using hpath
      have hslash : (endpoint.toList ++ '/' :: method.toList).head? = some '/' := by
        rw [hsegments]
        cases n <;> simp [List.replicate_succ]
      cases hendpoint : endpoint.toList with
      | nil => exact absurd (by simpa using hendpoint) h.endpoint_ne
      | cons c tail =>
          rw [hendpoint] at hslash
          have hc : c = '/' := by simpa using hslash
          exact absurd (by simp [hendpoint, hc]) h.slash_not_mem_endpoint

/-- Every text can be cut, and `ofRest` classifies it by its two parts. -/
theorem of_rest_cut (rest : List Char) :
    ∃ endpoint method, Cut (String.ofList rest) endpoint method ∧
      ofRest rest = if endpoint = "" ∨ method = "" ∨ '/' ∈ method.toList
        then .malformed endpoint method else .call endpoint method := by
  have hsplit := List.takeWhile_append_dropWhile (p := fun c ↦ decide (c ≠ '/')) (l := rest)
  refine ⟨String.ofList (rest.takeWhile (· ≠ '/')),
    String.ofList ((rest.dropWhile (· ≠ '/')).drop 1), ⟨?_, ?_⟩, ?_⟩
  · rw [String.toList_ofList]
    exact Text.not_mem_take_while_ne '/' rest
  · rcases Text.drop_while_ne_cases '/' rest with h | ⟨tail, h⟩ <;> rw [h] at hsplit ⊢
    · left
      rw [List.append_nil] at hsplit
      exact ⟨by rw [hsplit], rfl⟩
    · right
      rw [← String.toList_inj]
      simpa using hsplit.symm
  · simp [ofRest, ← String.toList_inj]

/-- The class of the text below the configured path holds of the path. -/
theorem of_rest_holds {configured path : String} {rest : List Char}
    (hbelow : Below configured path (String.ofList rest)) :
    Holds configured path (ofRest rest) := by
  obtain ⟨endpoint, method, hcut, hclass⟩ := of_rest_cut rest
  by_cases hparts : endpoint = "" ∨ method = "" ∨ '/' ∈ method.toList
  · rw [hclass, if_pos hparts]
    exact ⟨String.ofList rest, hbelow, hcut, hparts⟩
  · rw [hclass, if_neg hparts]
    rcases below_cut_iff.mp ⟨String.ofList rest, hbelow, hcut⟩ with hcall | ⟨_, _, _, h⟩
    · exact hcall
    · exact absurd h hparts

/-- The class of a path holds of it. -/
theorem classify_holds (path configured : String) :
    Holds configured path (classify path configured) := by
  unfold classify
  split
  · rename_i h
    rw [Text.is_prefix_of_eq_none_iff] at h
    rintro (hpath | ⟨rest, hpath⟩)
    · exact h [] (by simp [hpath])
    · exact h ('/' :: rest.toList) (by simp [hpath])
  · rename_i h
    replace h := (List.append_eq_of_isPrefixOf?_eq_some h).symm
    exact of_rest_holds (Or.inl ⟨by rw [← String.toList_inj]; simpa using h, rfl⟩)
  · rename_i rest h
    replace h := (List.append_eq_of_isPrefixOf?_eq_some h).symm
    exact of_rest_holds (Or.inr (by rw [← String.toList_inj]; simpa using h))
  · -- What follows the configured path is neither the end nor a slash.
    rename_i c rest hc h
    replace h := (List.append_eq_of_isPrefixOf?_eq_some h).symm
    rintro (hpath | ⟨tail, hpath⟩)
    · rw [hpath, to_list_base] at h
      simp at h
    · rw [hpath] at h
      have hfirst : '/' = c ∧ tail.toList = rest := by simpa using h
      exact hc hfirst.1.symm

/-- A path has the one class that holds of it. -/
theorem classify_eq_iff {path configured : String} {found : CallPath} :
    classify path configured = found ↔ Holds configured path found := by
  constructor
  · rintro rfl
    exact classify_holds path configured
  · exact (classify_holds path configured).unique

/-- The paths outside are those not under the configured path. -/
theorem classify_outside_iff {path configured : String} :
    classify path configured = .outside ↔ ¬ Under configured path :=
  classify_eq_iff

/-- The calls of an endpoint and a method are the configured path with these two segments. -/
theorem classify_call_iff {path configured endpoint method : String} :
    classify path configured = .call endpoint method ↔ IsCall configured path endpoint method :=
  classify_eq_iff

/-- A malformed call spells something else than two segments below the configured path. -/
theorem classify_malformed_iff {path configured endpoint method : String} :
    classify path configured = .malformed endpoint method ↔
      IsMalformed configured path endpoint method :=
  classify_eq_iff

end EndpointGuard.CallPath
