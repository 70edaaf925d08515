import EndpointGuard.Proofs.LowerCase
import EndpointGuard.Proofs.RegistryRun

/-!
# Spellings of one name

Names are compared in lower case, with the rule for a sigma at the end of a word, which looks at the
letters around it. `Respelled` relates the spellings that count as one name: those that differ in
the case of ASCII letters, and a text and its lower case. Read `spellings_answered_alike` first: a
registry answers all spellings of a name alike, and registers one of them at most. For this, no
small form is a capital letter again (`lower_case_again`), and the rule for the sigma does not see
the case of ASCII letters (`lower_case_of_ascii_eq`).
-/

namespace EndpointGuard

namespace Text

/-! ## Text in lower case -/

/-- The small forms of a run lie on one side of the letters of another run, or between them. -/
def CapitalRun.misses (run other : CapitalRun) : Bool :=
  (run.small + (run.last - run.first)).blt other.first || other.last.blt run.small ||
    (other.step == 2 && (run.step == 2 || run.last == run.first) &&
      (run.small + other.first) % 2 == 1)

/-- No small form is a capital letter. -/
theorem small_forms_miss : capitals.all (fun run ↦ capitals.all run.misses) = true := by
  decide +kernel

/-- The dotted capital letter, which has two characters for a small form, is no small form. -/
theorem small_form_ne_dotted {run : CapitalRun} (hrun : run ∈ capitals) {code small : Nat}
    (h : run.lower? code = some small) : small ≠ 0x130 := by
  have hranges : ∀ run ∈ capitals,
      run.small + (run.last - run.first) < 0x130 ∨ 0x130 < run.small := by
    decide +kernel
  have hrange := hranges run hrun
  unfold CapitalRun.lower? at h
  split at h
  · obtain rfl := Option.some.inj h
    omega
  · cases h

/-- The small form of a letter of a run is no letter of a run that is missed. -/
theorem CapitalRun.lower_eq_none {run other : CapitalRun} (hmisses : run.misses other = true)
    {code small : Nat} (h : run.lower? code = some small) : other.lower? small = none := by
  unfold lower? at h ⊢
  split at h
  · rename_i hletter
    obtain ⟨hfirst, hlast, hstep⟩ := hletter
    obtain rfl := Option.some.inj h
    refine if_neg ?_
    rintro ⟨hotherFirst, hotherLast, hotherStep⟩
    simp only [misses, Bool.or_eq_true, Bool.and_eq_true, beq_iff_eq, Nat.blt_eq] at hmisses
    rcases hmisses with (hbefore | hbehind) | ⟨⟨htwo, heven⟩, hodd⟩
    · omega
    · omega
    · -- The letters of the other run have one parity, and the small form has the other one.
      have hparity : (code - run.first) % 2 = 0 := by
        rcases heven with hrun | hsingle
        · rw [← hrun]
          exact hstep
        · omega
      rw [htwo] at hotherStep
      omega
  · cases h

/-- A small form has no other small form. -/
theorem lower_char_of_mem {c d : Char} (h : d ∈ lowerChar c) : lowerChar d = [d] := by
  rcases lower_char_cases c with ⟨-, hforms⟩ | ⟨run, hrun, small, hlower, hform⟩ | hsame
  · rw [hforms] at h
    rcases List.mem_pair.mp h with rfl | rfl
    · rfl
    · rfl
  · rw [hform, List.mem_singleton] at h
    subst h
    have hcode := to_nat_char_of_nat (small_form_spec hrun hlower).2
    refine lower_char_of_none ?_ ?_
    · intro hdotted
      rw [hdotted] at hcode
      exact small_form_ne_dotted hrun hlower hcode.symm
    · intro other hother
      rw [hcode]
      have hmisses := List.all_eq_true.mp (List.all_eq_true.mp small_forms_miss run hrun)
      exact CapitalRun.lower_eq_none (hmisses other hother) hlower
  · rw [hsame, List.mem_singleton] at h
    rw [h, hsame]

/-- Text that consists of small forms is not changed. -/
theorem lower_after_of_small {text : List Char} (h : ∀ c ∈ text, lowerChar c = [c])
    (before : List Char) : lowerAfter before text = text := by
  induction text generalizing before with
  | nil => rfl
  | cons c rest ih =>
      have hc := h c List.mem_cons_self
      have hsigma : c ≠ '\u03a3' := by
        rintro rfl
        exact absurd hc (by decide)
      rw [lowerAfter, if_neg hsigma, hc, ih fun d hd ↦ h d (List.mem_cons_of_mem c hd)]
      rfl

/-- A text in lower case consists of small forms. -/
theorem lower_char_of_mem_lower_after {before text : List Char} {d : Char}
    (h : d ∈ lowerAfter before text) : lowerChar d = [d] := by
  induction text generalizing before with
  | nil => cases h
  | cons c rest ih =>
      rw [lowerAfter] at h
      rcases List.mem_append.mp h with hfirst | hrest
      · split at hfirst
        · rw [List.mem_singleton.mp hfirst, lowerSigma]
          split
          · rfl
          · rfl
        · exact lower_char_of_mem hfirst
      · exact ih hrest

/-- Lower-casing a text in lower case changes nothing. -/
theorem lower_case_again (text : String) : lowerCase (lowerCase text) = lowerCase text := by
  have hsmall : lowerAfter [] (lowerAfter [] text.toList) = lowerAfter [] text.toList :=
    lower_after_of_small (fun _ ↦ lower_char_of_mem_lower_after) []
  rw [lowerCase, lowerCase, String.toList_ofList, hsmall]

/-! ## The case of ASCII letters -/

/-- Nothing that lower-casing asks about the first character depends on whether it is the second
instead. -/
structure LoweredAlike (c other : Char) : Prop where
  lower_char : lowerChar other = lowerChar c
  sigma : other = '\u03a3' ↔ c = '\u03a3'
  ignorable : contains caseIgnorable other = contains caseIgnorable c
  cased : contains cased other = contains cased c

/-- The code point of an ASCII letter. -/
def IsAsciiLetter (code : Nat) : Prop :=
  0x41 ≤ code ∧ code ≤ 0x5a ∨ 0x61 ≤ code ∧ code ≤ 0x7a

/-- No ASCII letter is passed over when a word is searched for its end. -/
theorem not_ignorable_of_ascii {c : Char} (h : IsAsciiLetter c.toNat) :
    contains caseIgnorable c = false := by
  have hranges : ∀ range ∈ caseIgnorable, range.last < 0x41 ∨
      0x5a < range.first ∧ range.last < 0x61 ∨ 0x7a < range.first := by
    decide +kernel
  rw [contains, List.any_eq_false]
  intro range hrange
  have := hranges range hrange
  simp only [CodeRange.holds, Bool.and_eq_true, decide_eq_true_eq, IsAsciiLetter] at h ⊢
  omega

/-- Every ASCII letter has a case. -/
theorem cased_of_ascii {c : Char} (h : IsAsciiLetter c.toNat) : contains cased c = true := by
  rw [contains, List.any_eq_true]
  rcases h with ⟨hfirst, hlast⟩ | ⟨hfirst, hlast⟩
  · exact ⟨⟨0x41, 0x5a⟩, List.mem_cons_self, by simp [CodeRange.holds, hfirst, hlast]⟩
  · exact ⟨⟨0x61, 0x7a⟩, List.mem_cons_of_mem _ List.mem_cons_self,
      by simp [CodeRange.holds, hfirst, hlast]⟩

/-- The small form of an ASCII capital letter is the one that ASCII gives it. -/
theorem lower_char_of_ascii_capital {c : Char} (hfirst : 0x41 ≤ c.toNat) (hlast : c.toNat ≤ 0x5a) :
    lowerChar c = [lowerAscii c] := by
  have hdotted : c ≠ '\u0130' := by
    rintro rfl
    exact absurd hlast (by decide)
  have hform : (capitals.findSome? fun run ↦ run.lower? c.toNat) = some (c.toNat + 32) := by
    have hrun : (⟨0x41, 0x5a, 1, 0x61⟩ : CapitalRun).lower? c.toNat = some (c.toNat + 32) := by
      rw [CapitalRun.lower?, if_pos ⟨hfirst, hlast, Nat.mod_one _⟩, Option.some.injEq]
      dsimp only
      omega
    rw [capitals, List.findSome?_cons, hrun]
  rw [lowerChar, if_neg hdotted, hform, lowerAscii, if_pos ⟨hfirst, hlast⟩]

/-- The case of an ASCII letter does not matter for lower-casing. -/
theorem lower_ascii_alike (c : Char) : LoweredAlike c (lowerAscii c) := by
  by_cases hcapital : 0x41 ≤ c.toNat ∧ c.toNat ≤ 0x5a
  · obtain ⟨hfirst, hlast⟩ := hcapital
    have hlower := lower_char_of_ascii_capital hfirst hlast
    have hcode : (lowerAscii c).toNat = c.toNat + 32 := by
      rw [lowerAscii, if_pos ⟨hfirst, hlast⟩, to_nat_char_of_nat (Or.inl (by omega))]
    have hletter : IsAsciiLetter c.toNat := Or.inl ⟨hfirst, hlast⟩
    have hsmall : IsAsciiLetter (lowerAscii c).toNat := Or.inr (by omega)
    have hne : ∀ other : Char, IsAsciiLetter other.toNat → other ≠ '\u03a3' := by
      rintro other hother rfl
      exact absurd hother (by simp [IsAsciiLetter])
    refine ⟨?_, iff_of_false (hne _ hsmall) (hne c hletter), ?_, ?_⟩
    · rw [hlower, lower_char_of_mem (c := c) (hlower ▸ List.mem_singleton_self _)]
    · rw [not_ignorable_of_ascii hletter, not_ignorable_of_ascii hsmall]
    · rw [cased_of_ascii hletter, cased_of_ascii hsmall]
  · have hsame : lowerAscii c = c := if_neg hcapital
    rw [hsame]
    exact ⟨rfl, Iff.rfl, rfl, rfl⟩

/-- Whether a word goes on with a letter does not depend on the case of ASCII letters. -/
theorem meets_cased_ascii (text : List Char) :
    meetsCased (text.map lowerAscii) = meetsCased text := by
  have hignorable : contains caseIgnorable ∘ lowerAscii = contains caseIgnorable :=
    funext fun c ↦ (lower_ascii_alike c).ignorable
  rw [meetsCased, List.dropWhile_map, hignorable, meetsCased]
  cases text.dropWhile (contains caseIgnorable) with
  | nil => rfl
  | cons c rest => exact (lower_ascii_alike c).cased

/-- Lower-casing a text does not depend on the case of ASCII letters in it and in front of it. -/
theorem lower_after_ascii (before text : List Char) :
    lowerAfter (before.map lowerAscii) (text.map lowerAscii) = lowerAfter before text := by
  induction text generalizing before with
  | nil => rfl
  | cons c rest ih =>
      have hc := lower_ascii_alike c
      have hsigma : lowerSigma (before.map lowerAscii) (rest.map lowerAscii) =
          lowerSigma before rest := by
        rw [lowerSigma, meets_cased_ascii, meets_cased_ascii, ← lowerSigma]
      have hrest := ih (c :: before)
      rw [List.map_cons] at hrest ⊢
      rw [lowerAfter, lowerAfter, hrest, hsigma, hc.lower_char]
      simp only [hc.sigma]

/-- Texts that differ in the case of ASCII letters have one lower case. -/
theorem lower_case_of_ascii_eq {first second : String}
    (h : first.toList.map lowerAscii = second.toList.map lowerAscii) :
    lowerCase first = lowerCase second := by
  have hsame : lowerAfter [] first.toList = lowerAfter [] second.toList := by
    rw [← lower_after_ascii [] first.toList, h, lower_after_ascii]
  rw [lowerCase, lowerCase, hsame]

end Text

/-! ## Spellings -/

/-- Two texts are spellings of one name: they differ in the case of ASCII letters, or one of them is
the other in lower case, or they are related by steps of these two kinds. -/
inductive Respelled : String → String → Prop where
  | ascii {first second : String} :
      first.toList.map Text.lowerAscii = second.toList.map Text.lowerAscii →
        Respelled first second
  | lowered {text : String} : Respelled text (Text.lowerCase text)
  | symm {first second : String} : Respelled first second → Respelled second first
  | trans {first second third : String} :
      Respelled first second → Respelled second third → Respelled first third

/-- Two texts are spellings of one name exactly if they have one lower case. -/
theorem respelled_iff {first second : String} :
    Respelled first second ↔ Text.lowerCase first = Text.lowerCase second := by
  constructor
  · intro h
    induction h with
    | ascii h => exact Text.lower_case_of_ascii_eq h
    | lowered => exact (Text.lower_case_again _).symm
    | symm _ ih => exact ih.symm
    | trans _ _ ih ih' => exact ih.trans ih'
  · intro h
    exact .trans .lowered (h ▸ .symm .lowered)

namespace Registry

/-- The answers to a name depend on its lower case alone. -/
theorem find_of_respelled (registry : Registry) {name other : String}
    (h : Respelled name other) : registry.find? other = registry.find? name := by
  rw [find?, find?, respelled_iff.mp h]

/-- After any run of registrations, all spellings of an endpoint's name and of a method's name get
the same answers. A further endpoint under a spelling of a name that is registered is always refused
as a duplicate of the holder of the name, and nothing changes. -/
theorem spellings_answered_alike (definitions : List TypeDefinition) :
    (∀ endpoint endpoint' method method' : String,
      Respelled endpoint endpoint' → Respelled method method' →
      (empty.enterAll definitions).resolve endpoint' method' =
        (empty.enterAll definitions).resolve endpoint method ∧
      (empty.enterAll definitions).endpoint endpoint' =
        (empty.enterAll definitions).endpoint endpoint) ∧
    (∀ holder ∈ empty.accepted definitions, ∀ definition : TypeDefinition,
      definition.own.isEndpoint = true →
      Respelled holder.own.endpointName definition.own.endpointName →
      (empty.enterAll definitions).enter definition =
        (.error (.duplicateEndpoint definition.own.endpointName holder.own.typeName),
          empty.enterAll definitions)) := by
  refine ⟨?_, ?_⟩
  · intro endpoint endpoint' method method' hendpoint hmethod
    have hfind := (empty.enterAll definitions).find_of_respelled hendpoint
    refine ⟨?_, ?_⟩
    · rw [resolve, resolve, hfind, respelled_iff.mp hmethod]
    · rw [Registry.endpoint, Registry.endpoint, hfind]
  · intro holder hholder definition hendpoint hspelled
    refine enter_of_error (((represents_run definitions).duplicate_iff _ _).mpr ?_)
    exact ⟨hendpoint, rfl, holder, hholder, respelled_iff.mp hspelled, rfl⟩

/-- An endpoint with one method, both named by words that hold a sigma. -/
def wordStop : TypeDefinition where
  own := {
    typeName := "app::Stop"
    simpleName := "TA\u03a3"
    isEndpoint := true
    methods := [⟨"\u03a3TO\u03a3", .unspecified⟩] }

/-- A word that ends in a sigma, in lower case or with its other letters in another case, names the
endpoint still, and so does the method's name in lower case; the endpoint is not registered again
under the word in lower case. -/
theorem word_answered_in_any_case :
    (Respelled "TA\u03a3" "ta\u03a3" ∧ Respelled "\u03a3TO\u03a3" "\u03c3to\u03c2") ∧
    (empty.enterAll [wordStop]).resolve "ta\u03a3" "\u03c3to\u03c2" =
      (empty.enterAll [wordStop]).resolve "TA\u03a3" "\u03a3TO\u03a3" ∧
    ((empty.enterAll [wordStop]).resolve "TA\u03a3" "\u03a3TO\u03a3").isSome = true ∧
    wordStop ∈ empty.accepted [wordStop] ∧
    (empty.enterAll [wordStop]).enter
        { wordStop with own := { wordStop.own with simpleName := "ta\u03c2" } } =
      (.error (.duplicateEndpoint "ta\u03c2" "app::Stop"), empty.enterAll [wordStop]) := by
  have hendpoint : Respelled "TA\u03a3" "ta\u03a3" := .ascii (by decide +kernel)
  have hmethod : Respelled "\u03a3TO\u03a3" "\u03c3to\u03c2" :=
    respelled_iff.mpr (by decide +kernel)
  have hword : Respelled "TA\u03a3" "ta\u03c2" := respelled_iff.mpr (by decide +kernel)
  have hheld : wordStop ∈ empty.accepted [wordStop] := List.mem_singleton_self _
  obtain ⟨hanswers, hduplicates⟩ := spellings_answered_alike [wordStop]
  exact ⟨⟨hendpoint, hmethod⟩, (hanswers _ _ _ _ hendpoint hmethod).1, by decide +kernel, hheld,
    hduplicates wordStop hheld _ rfl hword⟩

end Registry

end EndpointGuard
