import Mathlib.Data.List.Basic
import Mathlib.Data.List.DropRight
import EndpointGuard.Text.Blank

/-!
# Parts of texts

How a text is put together from the parts that readers cut out of it: a beginning and the rest
behind it, what stands before the first slash and what stands after it, and a text without its
trailing characters of one kind.
-/

namespace EndpointGuard.Text

/-- Cutting off a beginning fails exactly on the texts that do not have it. -/
theorem is_prefix_of_eq_none_iff {start text : List Char} :
    start.isPrefixOf? text = none ↔ ∀ rest, text ≠ start ++ rest := by
  simp only [Option.eq_none_iff_forall_ne_some, ne_eq, List.isPrefixOf?_eq_some_iff_append_eq,
    eq_comm]

/-- What is taken from a text up to a character does not hold that character. -/
theorem not_mem_take_while_ne (c : Char) (text : List Char) :
    c ∉ text.takeWhile (· ≠ c) := by
  induction text with
  | nil => simp
  | cons d text ih =>
      by_cases h : d = c
      · simp [h]
      · simpa [List.takeWhile_cons, h] using ⟨fun e ↦ h e.symm, by simpa using ih⟩

/-- What is left of a text from a character on is nothing, or begins with that character. -/
theorem drop_while_ne_cases (c : Char) (text : List Char) :
    text.dropWhile (· ≠ c) = [] ∨ ∃ rest, text.dropWhile (· ≠ c) = c :: rest := by
  induction text with
  | nil => exact Or.inl rfl
  | cons d text ih =>
      by_cases h : d = c
      · exact Or.inr ⟨text, by simp [h]⟩
      · simpa [List.dropWhile_cons, h] using ih

/-- A text is what stands before its first `c`, alone or followed by that character and a rest. -/
theorem take_while_ne_append (c : Char) (first rest : List Char) (h : c ∉ first) :
    (first ++ c :: rest).takeWhile (· ≠ c) = first ∧
      (first ++ c :: rest).dropWhile (· ≠ c) = c :: rest := by
  have hall : ∀ d ∈ first, (decide (d ≠ c)) = true := by
    intro d hd
    have hne : d ≠ c := fun e ↦ h (e ▸ hd)
    simpa using hne
  constructor
  · rw [List.takeWhile_append_of_pos hall]
    simp
  · rw [List.dropWhile_append_of_pos hall]
    simp

/-- Two ways of cutting a text at a `c`, with no `c` in front of the cut, are the same. -/
theorem append_cons_inj {c : Char} {first other rest left : List Char}
    (hfirst : c ∉ first) (hother : c ∉ other) (h : first ++ c :: rest = other ++ c :: left) :
    first = other ∧ rest = left := by
  have hcut := take_while_ne_append c first rest hfirst
  have hcutOther := take_while_ne_append c other left hother
  rw [h, hcutOther.1, hcutOther.2] at hcut
  exact ⟨hcut.1.symm, (List.cons.inj hcut.2).2.symm⟩

/-- A beginning of a text that is not empty begins like the text. -/
theorem head_of_prefix {start text : List Char} (h : start <+: text) (hne : start ≠ []) :
    start.head? = text.head? := by
  obtain ⟨rest, rfl⟩ := h
  rw [List.head?_append_of_ne_nil _ hne]

/-- A text without its trailing characters of a kind is a beginning of it. -/
theorem drop_end_prefix (p : Char → Bool) (text : List Char) : dropEnd p text <+: text :=
  List.rdropWhile_prefix p text

/-- It does not end with a character of that kind. -/
theorem drop_end_last {p : Char → Bool} {text : List Char} {c : Char}
    (h : (dropEnd p text).getLast? = some c) : p c = false := by
  rw [dropEnd, List.getLast?_reverse] at h
  have hhead := List.head?_dropWhile_not p text.reverse
  rw [h] at hhead
  simpa using hhead

/-- Nothing is left of a text that holds no other characters. -/
theorem drop_end_eq_nil_iff {p : Char → Bool} {text : List Char} :
    dropEnd p text = [] ↔ ∀ c ∈ text, p c = true :=
  List.rdropWhile_eq_nil_iff

/-- Nothing is dropped where the last character is not of the kind. -/
theorem drop_end_of_last {p : Char → Bool} {text : List Char}
    (h : ∀ c, text.getLast? = some c → p c = false) : dropEnd p text = text := by
  refine List.rdropWhile_eq_self_iff.mpr fun hne ↦ ?_
  simpa using h _ (List.getLast?_eq_some_getLast hne)

/-- Characters of the kind that stand at the end are dropped first. -/
theorem drop_end_append_of_all {p : Char → Bool} {tail : List Char} (text : List Char)
    (h : ∀ c ∈ tail, p c = true) : dropEnd p (text ++ tail) = dropEnd p text := by
  rw [dropEnd, dropEnd, List.reverse_append, List.dropWhile_append_of_pos]
  simpa using h

/-- Dropping the trailing `c`s takes nothing but `c`s away. -/
theorem drop_end_append (c : Char) (text : List Char) :
    ∃ n, text = dropEnd (· = c) text ++ List.replicate n c := by
  have hall : ∀ d ∈ text.reverse.takeWhile (· = c), d = c := by
    intro d hd
    have htake := List.all_takeWhile (p := fun d ↦ decide (d = c)) (l := text.reverse)
    simpa using List.all_eq_true.mp htake d hd
  have htail := List.eq_replicate_of_mem hall
  refine ⟨(text.reverse.takeWhile (· = c)).length, ?_⟩
  calc text = text.reverse.reverse := by simp
    _ = (text.reverse.takeWhile (· = c) ++ text.reverse.dropWhile (· = c)).reverse := by
        rw [List.takeWhile_append_dropWhile]
    _ = dropEnd (· = c) text ++ (text.reverse.takeWhile (· = c)).reverse := by
        rw [List.reverse_append, dropEnd]
    _ = dropEnd (· = c) text ++
          List.replicate (text.reverse.takeWhile (· = c)).length c := by
        rw [htail]
        simp

end EndpointGuard.Text
