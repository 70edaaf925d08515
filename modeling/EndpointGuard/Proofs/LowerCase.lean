import EndpointGuard.Proofs.Utf8
import EndpointGuard.Text.LowerCase

/-!
# What lower case leaves alone

The small forms of letters are letters, so that lower-casing a text neither adds nor removes a
character below the letters: control characters, punctuation and digits. `mem_lower_case_iff` says
so, and `mem_iff_of_lower_case_eq` applies it to two spellings of one name.
-/

namespace EndpointGuard.Text

/-- The runs of capital letters begin with the letter A, and their small forms are characters. -/
theorem capitals_spec : ∀ run ∈ capitals, 0x41 ≤ run.first ∧ 0x41 ≤ run.small ∧
    (run.small + (run.last - run.first) < 0xd800 ∨
      0xdfff < run.small ∧ run.small + (run.last - run.first) < 0x110000) := by
  decide +kernel

/-- The small form of a letter of a run is a character, and no character below the letters. -/
theorem small_form_spec {run : CapitalRun} (hrun : run ∈ capitals) {code small : Nat}
    (h : run.lower? code = some small) : 0x41 ≤ small ∧ small.isValidChar := by
  obtain ⟨_, hsmall, hrange⟩ := capitals_spec run hrun
  unfold CapitalRun.lower? at h
  split at h
  · obtain rfl := Option.some.inj h
    unfold Nat.isValidChar
    omega
  · cases h

/-- A character is the dotted capital letter, or a letter of a run with the small form of its place,
or a character that is its own small form. -/
theorem lower_char_cases (c : Char) :
    c = '\u0130' ∧ lowerChar c = ['i', '\u0307'] ∨
    (∃ run ∈ capitals, ∃ small, run.lower? c.toNat = some small ∧
      lowerChar c = [Char.ofNat small]) ∨
    lowerChar c = [c] := by
  by_cases hdotted : c = '\u0130'
  · exact Or.inl ⟨hdotted, by rw [lowerChar, if_pos hdotted]⟩
  · refine Or.inr ?_
    rw [lowerChar, if_neg hdotted]
    cases hform : capitals.findSome? fun run ↦ run.lower? c.toNat with
    | none => exact Or.inr rfl
    | some small =>
        obtain ⟨run, hrun, hlower⟩ := List.exists_of_findSome?_eq_some hform
        exact Or.inl ⟨run, hrun, small, hlower, rfl⟩

/-- A character that is a letter of no run, and not the dotted capital letter, is its own small
form. -/
theorem lower_char_of_none {c : Char} (hdotted : c ≠ '\u0130')
    (hnone : ∀ run ∈ capitals, run.lower? c.toNat = none) : lowerChar c = [c] := by
  rw [lowerChar, if_neg hdotted, List.findSome?_eq_none_iff.mpr hnone]

/-- A character below the letters has no other small form. -/
theorem lower_char_of_low {c : Char} (h : c.toNat < 0x41) : lowerChar c = [c] := by
  refine lower_char_of_none ?_ ?_
  · rintro rfl
    exact absurd h (by decide)
  · intro run hrun
    have hfirst := (capitals_spec run hrun).1
    exact if_neg (by omega)

/-- The small form of any other character has no character below the letters. -/
theorem not_low_of_mem_lower_char {c d : Char} (h : 0x41 ≤ c.toNat) (hd : d ∈ lowerChar c) :
    0x41 ≤ d.toNat := by
  rcases lower_char_cases c with ⟨-, hforms⟩ | ⟨run, hrun, small, hlower, hform⟩ | hsame
  · rw [hforms] at hd
    rcases List.mem_pair.mp hd with rfl | rfl
    · decide
    · decide
  · obtain ⟨hletter, hvalid⟩ := small_form_spec hrun hlower
    rw [hform, List.mem_singleton] at hd
    rw [hd, to_nat_char_of_nat hvalid]
    exact hletter
  · rw [hsame, List.mem_singleton] at hd
    rw [hd]
    exact h

/-- A character below the letters stands in a text in lower case as often as in the text. -/
theorem count_lower_after {c : Char} (h : c.toNat < 0x41) (before text : List Char) :
    (lowerAfter before text).count c = text.count c := by
  induction text generalizing before with
  | nil => rfl
  | cons first rest ih =>
      rw [lowerAfter, List.count_append, ih]
      by_cases hfirst : first.toNat < 0x41
      · have hsigma : first ≠ '\u03a3' := by
          rintro rfl
          exact absurd hfirst (by decide)
        rw [if_neg hsigma, lower_char_of_low hfirst, ← List.count_append, List.singleton_append]
      · have hne : first ≠ c := by
          rintro rfl
          exact hfirst h
        -- Neither the letter nor its small form is the character.
        have hforms : (if first = '\u03a3' then [lowerSigma before rest]
            else lowerChar first).count c = 0 := by
          rw [List.count_eq_zero]
          intro hmem
          split at hmem
          · have hsigma : 0x41 ≤ (lowerSigma before rest).toNat := by
              unfold lowerSigma
              split <;> decide
            rw [← List.mem_singleton.mp hmem] at hsigma
            omega
          · have := not_low_of_mem_lower_char (by omega) hmem
            omega
        rw [hforms, List.count_cons_of_ne hne, Nat.zero_add]

/-- A character below the letters stands in a text in lower case exactly if it stands in the
text. -/
theorem mem_lower_case_iff {c : Char} (h : c.toNat < 0x41) (text : String) :
    c ∈ (lowerCase text).toList ↔ c ∈ text.toList := by
  rw [lowerCase, String.toList_ofList, ← List.count_pos_iff, count_lower_after h,
    List.count_pos_iff]

/-- Two texts with one lower case have the same characters below the letters. -/
theorem mem_iff_of_lower_case_eq {c : Char} (h : c.toNat < 0x41) {first second : String}
    (hsame : lowerCase first = lowerCase second) : c ∈ first.toList ↔ c ∈ second.toList := by
  rw [← mem_lower_case_iff h first, hsame, mem_lower_case_iff h second]

end EndpointGuard.Text
