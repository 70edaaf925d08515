import EndpointGuard.Proofs.Breaks
import Mathlib.Data.List.Infix

/-!
# What a parser reads does not depend on what stands behind a break

`Alike` relates parsers that read the same from tokens that differ only behind a break. The two are
mostly one parser on both sides; they differ in loops and nested rules, which take as many steps as
there are tokens, and that number depends on what stands behind. A `Limit` says for how many tokens
the steps are enough.

Parsers are put together from other parsers, and so is the proof that they read alike: an instance
for each way to put them together, and one for each parser, found by putting these together. Read
`read_before_break_iff` for what follows: what is read in front of a break is read alone.
-/

namespace EndpointGuard.Source

open Source.Parser

variable {α β : Type}

/-! ## Limits -/

/-- For how many tokens the steps of loops are enough, and for how many, those in groups included,
the levels of nested rules are. -/
structure Limit where
  length : Nat
  count : Nat

/-- The steps are enough for these tokens. -/
def Limit.Fits (limit : Limit) (tokens : List Token) : Prop :=
  tokens.length < limit.length ∧ Token.countList tokens < limit.count

/-- Two lists of tokens together have the tokens of both. -/
theorem count_append (first second : List Token) :
    Token.countList (first ++ second) = Token.countList first + Token.countList second := by
  induction first with
  | nil => simp [Token.countList]
  | cons token rest ih =>
      rw [List.cons_append, Token.countList, Token.countList, ih]
      omega

/-- A token counts itself. -/
theorem count_pos (token : Token) : 0 < Token.count token := by
  cases token <;> simp [Token.count]

/-- A list has no more tokens at its top than it has in all. -/
theorem length_le_count (tokens : List Token) : tokens.length ≤ Token.countList tokens := by
  induction tokens with
  | nil => simp
  | cons token rest ih =>
      have hpos := count_pos token
      rw [List.length_cons, Token.countList]
      omega

namespace Limit.Fits

variable {front left : List Token} {k n : Nat}

/-- What is enough for all tokens is enough for the last of them. -/
theorem rest {limit : Limit} (h : limit.Fits (front ++ left)) : limit.Fits left := by
  obtain ⟨hlength, hcount⟩ := h
  rw [List.length_append] at hlength
  rw [count_append] at hcount
  exact ⟨by omega, by omega⟩

/-- Behind a token that was read one step less is enough. -/
theorem rest_length (h : Limit.Fits ⟨k + 1, n⟩ (front ++ left)) (hfront : front ≠ []) :
    Limit.Fits ⟨k, n⟩ left := by
  have hlength := h.1
  have hpos := List.length_pos_iff.mpr hfront
  rw [List.length_append] at hlength
  exact ⟨by simp only at hlength ⊢; omega, h.rest.2⟩

/-- Behind a token that was read one level less is enough. -/
theorem rest_count (h : Limit.Fits ⟨k, n + 1⟩ (front ++ left)) (hfront : front ≠ []) :
    Limit.Fits ⟨k, n⟩ left := by
  have hcount := h.2
  have hpos := List.length_pos_iff.mpr hfront
  have hle := length_le_count front
  rw [count_append] at hcount
  exact ⟨h.rest.1, by simp only at hcount ⊢; omega⟩

end Limit.Fits

/-! ## Parsers that read alike -/

/-- What the parser leaves is an end of what it was given. -/
class Forward (p : Parser α) : Prop where
  suffix : ∀ {tokens left : List Token} {value : α}, p tokens = some (value, left) → left <:+ tokens

/-- What the first parser reads from tokens within its limit, the second reads from all tokens
within its own that are the same up to a break behind what was read. -/
class Alike (a b : Limit) (p q : Parser α) : Prop where
  read : ∀ {tokens left : List Token} {value : α}, a.Fits tokens → p tokens = some (value, left) →
    ∃ front, tokens = front ++ left ∧
      ∀ {tail : List Token}, SameToBreak left tail → b.Fits (front ++ tail) →
        q (front ++ tail) = some (value, tail)

/-- Besides, the parsers read a token at least. -/
class Advances (a b : Limit) (p q : Parser α) : Prop extends Alike a b p q where
  less : ∀ {tokens left : List Token} {value : α}, a.Fits tokens → p tokens = some (value, left) →
    left ≠ tokens

/-- Whatever value is given to them, the parsers read alike. -/
class AlikeFor (a b : Limit) (f g : α → Parser β) : Prop where
  alike : ∀ value, Alike a b (f value) (g value)

instance alike_for {a b : Limit} {f g : α → Parser β} [h : ∀ value, Alike a b (f value) (g value)] :
    AlikeFor a b f g where
  alike := h

instance alike_for_pair {γ : Type} {a b : Limit} {f g : α × γ → Parser β}
    [h : ∀ x y, Alike a b (f (x, y)) (g (x, y))] : AlikeFor a b f g where
  alike value := h value.1 value.2

section together

variable {a b : Limit} {p q p' q' : Parser α} {f g : α → Parser β} {k l n m : Nat}

instance (priority := low) forward_of_alike [h : ∀ a, Alike a a p p] : Forward p where
  suffix {tokens left value} hp := by
    obtain ⟨front, rfl, -⟩ :=
      (h ⟨tokens.length + 1, Token.countList tokens + 1⟩).read ⟨by simp, by simp⟩ hp
    exact ⟨front, rfl⟩

/-- What follows a step has to read alike only within the limits that are left behind it. -/
theorem Alike.bind {a' b' : Limit} (hp : Alike a b p q) (hf : AlikeFor a' b' f g)
    (hleft : ∀ {front middle : List Token} {value : α}, a.Fits (front ++ middle) →
      p (front ++ middle) = some (value, middle) →
        a'.Fits middle ∧ ∀ {tail : List Token}, b.Fits (front ++ tail) → b'.Fits tail) :
    Alike a b (p >>= f) (q >>= g) where
  read := by
    intro tokens left value htokens h
    obtain ⟨first, middle, hfirst, hrest⟩ := bind_eq_some_iff.mp h
    obtain ⟨front, rfl, hfront⟩ := hp.read htokens hfirst
    obtain ⟨hmiddle, htail⟩ := hleft htokens hfirst
    obtain ⟨front', rfl, hfront'⟩ := (hf.alike first).read hmiddle hrest
    refine ⟨front ++ front', by rw [List.append_assoc], ?_⟩
    intro tail hsame hfits
    rw [List.append_assoc] at hfits ⊢
    exact bind_eq_some_iff.mpr
      ⟨first, front' ++ tail, hfront (hsame.append front') hfits, hfront' hsame (htail hfits)⟩

instance alike_bind [hp : Alike a b p q] [hf : AlikeFor a b f g] :
    Alike a b (p >>= f) (q >>= g) :=
  hp.bind hf fun hfits _ ↦ ⟨hfits.rest, Limit.Fits.rest⟩

/-- A token was read, as the rest is not all. -/
theorem Advances.ne_nil (hp : Advances a b p q) {front middle : List Token} {value : α}
    (hfits : a.Fits (front ++ middle)) (h : p (front ++ middle) = some (value, middle)) :
    front ≠ [] := by
  rintro rfl
  exact hp.less hfits h rfl

/-- Behind a step that reads a token, the limits on length are lower. -/
instance (priority := low) alike_bind_length [hp : Advances ⟨k + 1, n⟩ ⟨l + 1, m⟩ p q]
    [hf : AlikeFor ⟨k, n⟩ ⟨l, m⟩ f g] : Alike ⟨k + 1, n⟩ ⟨l + 1, m⟩ (p >>= f) (q >>= g) :=
  hp.toAlike.bind hf fun hfits h ↦
    ⟨hfits.rest_length (hp.ne_nil hfits h), fun htail ↦ htail.rest_length (hp.ne_nil hfits h)⟩

instance advances_ite {c : Prop} [Decidable c] [hp : Advances a b p q] [hp' : Advances a b p' q'] :
    Advances a b (if c then p else p') (if c then q else q') := by
  split <;> assumption

instance alike_ite {c : Prop} [Decidable c] [hp : Alike a b p q] [hp' : Alike a b p' q'] :
    Alike a b (if c then p else p') (if c then q else q') := by
  split <;> assumption

instance alike_pure (value : α) : Alike a b (pure value) (pure value) where
  read := by
    rintro tokens left found - h
    cases h
    exact ⟨[], rfl, fun _ _ ↦ rfl⟩

instance alike_failure : Alike a b (failure : Parser α) q where
  read := by
    rintro tokens left found - h
    cases h

instance advances_failure : Advances a b (failure : Parser α) q where
  less := by
    rintro tokens left found - h
    cases h

instance alike_ahead (look : Ahead) [steady : Steady look] :
    Alike a b (ahead look) (ahead look) where
  read := by
    rintro tokens left found - h
    cases h
    refine ⟨[], rfl, fun {tail} hsame _ ↦ ?_⟩
    rw [List.nil_append, ahead, steady.same hsame]

/-- A step that reads a token and what follows it read a token. -/
theorem Advances.bind {a' b' : Limit} (hp : Advances a b p q) (hf : AlikeFor a' b' f g)
    (hleft : ∀ {front middle : List Token} {value : α}, a.Fits (front ++ middle) →
      p (front ++ middle) = some (value, middle) →
        a'.Fits middle ∧ ∀ {tail : List Token}, b.Fits (front ++ tail) → b'.Fits tail) :
    Advances a b (p >>= f) (q >>= g) where
  toAlike := hp.toAlike.bind hf hleft
  less := by
    rintro tokens left value hfits h rfl
    obtain ⟨first, middle, hfirst, hrest⟩ := bind_eq_some_iff.mp h
    obtain ⟨front, rfl, -⟩ := hp.read hfits hfirst
    obtain ⟨front', hfront', -⟩ := (hf.alike first).read (hleft hfits hfirst).1 hrest
    -- All tokens are left, so neither step has read one.
    refine hp.ne_nil hfits hfirst ?_
    have hlength := congrArg List.length hfront'
    simp only [List.length_append] at hlength
    exact List.length_eq_zero_iff.mp (by omega)

instance advances_bind [hp : Advances a b p q] [hf : AlikeFor a b f g] :
    Advances a b (p >>= f) (q >>= g) :=
  hp.bind hf fun hfits _ ↦ ⟨hfits.rest, Limit.Fits.rest⟩

instance (priority := low) advances_bind_count [hp : Advances ⟨k, n + 1⟩ ⟨l, m + 1⟩ p q]
    [hf : AlikeFor ⟨k, n⟩ ⟨l, m⟩ f g] : Advances ⟨k, n + 1⟩ ⟨l, m + 1⟩ (p >>= f) (q >>= g) :=
  hp.bind hf fun hfits h ↦
    ⟨hfits.rest_count (hp.ne_nil hfits h), fun htail ↦ htail.rest_count (hp.ne_nil hfits h)⟩

/-- A step that may read nothing, and one behind it that reads a token. -/
instance (priority := low) advances_bind_right [hp : Alike a b p q]
    [hf : ∀ value, Advances a b (f value) (g value)] : Advances a b (p >>= f) (q >>= g) where
  less := by
    rintro tokens left value hfits h rfl
    obtain ⟨first, middle, hfirst, hrest⟩ := bind_eq_some_iff.mp h
    obtain ⟨front, hfront, -⟩ := hp.read hfits hfirst
    have hmiddle : a.Fits middle := by
      rw [hfront] at hfits
      exact hfits.rest
    obtain ⟨front', hfront', -⟩ := (hf first).read hmiddle hrest
    refine (hf first).less hmiddle hrest ?_
    have hlength := congrArg List.length hfront
    have hlength' := congrArg List.length hfront'
    simp only [List.length_append] at hlength hlength'
    have hnil : front = [] := List.length_eq_zero_iff.mp (by omega)
    rw [hfront, hnil, List.nil_append]

/-! ### Running out of steps -/

/-- Without steps nothing is within the limit. -/
theorem Alike.of_left_zero : Alike ⟨0, n⟩ b p q where
  read hfits := absurd hfits.1 (Nat.not_lt_zero _)

/-- Where the other side has no steps, it is enough that the first goes forward. -/
theorem Alike.of_right_zero [hp : Forward p] : Alike a ⟨0, m⟩ p q where
  read := by
    intro tokens left value _ h
    obtain ⟨front, rfl⟩ := hp.suffix h
    exact ⟨front, rfl, fun _ hfits ↦ absurd hfits.1 (Nat.not_lt_zero _)⟩

/-- Where the other side has no levels, it is enough that the first goes forward. -/
theorem Alike.of_right_count_zero [hp : Forward p] : Alike a ⟨l, 0⟩ p q where
  read := by
    intro tokens left value _ h
    obtain ⟨front, rfl⟩ := hp.suffix h
    exact ⟨front, rfl, fun _ hfits ↦ absurd hfits.2 (Nat.not_lt_zero _)⟩

/-- A loop reads alike with any two numbers of steps if one more step on both sides keeps it so: the
one side reads nothing without steps, and nothing is within the limit of the other. -/
theorem Alike.of_step {loop loop' : Nat → Parser α} (hforward : ∀ k, Forward (loop k))
    (hstep : ∀ k l, Alike ⟨k, n⟩ ⟨l, m⟩ (loop k) (loop' l) →
      Alike ⟨k + 1, n⟩ ⟨l + 1, m⟩ (loop (k + 1)) (loop' (l + 1))) :
    ∀ k l, Alike ⟨k, n⟩ ⟨l, m⟩ (loop k) (loop' l)
  | 0, _ => .of_left_zero
  | k + 1, 0 =>
      have := hforward (k + 1)
      .of_right_zero
  | k + 1, l + 1 => hstep k l (of_step hforward hstep k l)

/-- A loop with a step for each token reads alike if it does with any number of steps. -/
theorem Alike.of_steps {loop loop' : Nat → Parser α}
    (h : ∀ k l, Alike ⟨k, n⟩ ⟨l, m⟩ (loop k) (loop' l)) :
    Alike ⟨k, n⟩ ⟨l, m⟩ (fun tokens ↦ loop (tokens.length + 1) tokens)
      (fun tokens ↦ loop' (tokens.length + 1) tokens) where
  read := by
    intro tokens left value hfits hread
    have hloop : ∀ l, Alike ⟨tokens.length + 1, n⟩ ⟨l, m⟩ (loop (tokens.length + 1)) (loop' l) :=
      fun l ↦ h _ l
    -- Any number of steps on the other side gives the front; which number is enough for the other
    -- tokens is known only then.
    obtain ⟨front, rfl, -⟩ := (hloop 0).read ⟨Nat.lt_succ_self _, hfits.2⟩ hread
    refine ⟨front, rfl, fun {tail} hsame htail ↦ ?_⟩
    obtain ⟨front', hfront', hsecond⟩ :=
      (hloop ((front ++ tail).length + 1)).read ⟨Nat.lt_succ_self _, hfits.2⟩ hread
    obtain rfl := List.append_cancel_right hfront'
    exact hsecond hsame ⟨Nat.lt_succ_self _, htail.2⟩

/-- Rules nested as often as there are tokens read alike if they do at any levels. -/
theorem Alike.of_levels {rule : Nat → Parser α}
    (h : ∀ n m k l, Alike ⟨k, n⟩ ⟨l, m⟩ (rule n) (rule m)) :
    Alike a b (fun tokens ↦ rule (Token.countList tokens + 1) tokens)
      (fun tokens ↦ rule (Token.countList tokens + 1) tokens) where
  read := by
    intro tokens left value _ hread
    have hrule : ∀ m l,
        Alike ⟨tokens.length + 1, Token.countList tokens + 1⟩ ⟨l, m⟩
          (rule (Token.countList tokens + 1)) (rule m) :=
      fun m l ↦ h _ m _ l
    have hfits : Limit.Fits ⟨tokens.length + 1, Token.countList tokens + 1⟩ tokens :=
      ⟨Nat.lt_succ_self _, Nat.lt_succ_self _⟩
    obtain ⟨front, rfl, -⟩ := (hrule 0 0).read hfits hread
    refine ⟨front, rfl, fun {tail} hsame htail ↦ ?_⟩
    obtain ⟨front', hfront', hsecond⟩ :=
      (hrule (Token.countList (front ++ tail) + 1) ((front ++ tail).length + 1)).read hfits hread
    obtain rfl := List.append_cancel_right hfront'
    exact hsecond hsame ⟨Nat.lt_succ_self _, Nat.lt_succ_self _⟩

/-! ### Where reading ends -/

instance forward_pure (value : α) : Forward (pure value : Parser α) where
  suffix h := by
    cases h
    exact List.suffix_rfl

instance forward_failure : Forward (failure : Parser α) where
  suffix h := by cases h

instance forward_ahead (look : Ahead) : Forward (ahead look) where
  suffix h := by
    cases h
    exact List.suffix_rfl

instance forward_bind [hp : Forward p] [hf : ∀ value, Forward (f value)] : Forward (p >>= f) where
  suffix h := by
    obtain ⟨first, middle, hfirst, hrest⟩ := bind_eq_some_iff.mp h
    exact ((hf first).suffix hrest).trans (hp.suffix hfirst)

instance forward_ite {c : Prop} [Decidable c] [hp : Forward p] [hp' : Forward p'] :
    Forward (if c then p else p') := by
  split <;> assumption

/-! ### Single tokens -/

/-- A parser that takes tokens off the front, whatever stands behind them. -/
theorem Advances.of_takes (h : ∀ {tokens left : List Token} {value : α},
      p tokens = some (value, left) → ∃ front, front ≠ [] ∧ tokens = front ++ left ∧
        ∀ tail, p (front ++ tail) = some (value, tail)) : Advances a b p p where
  read := by
    intro tokens left value _ hp
    obtain ⟨front, -, rfl, htail⟩ := h hp
    exact ⟨front, rfl, fun {tail} _ _ ↦ htail tail⟩
  less := by
    rintro tokens left value - hp rfl
    obtain ⟨front, hne, hfront, -⟩ := h hp
    exact hne (by simpa using hfront)

/-- The characters of a symbol are taken off as so many tokens, whatever stands behind them. -/
theorem drop_symbol_chars_takes {chars : List Char} {tokens left : List Token}
    (h : dropSymbolChars chars tokens = some left) :
    ∃ front, front.length = chars.length ∧ tokens = front ++ left ∧
      ∀ tail, dropSymbolChars chars (front ++ tail) = some tail := by
  induction chars generalizing tokens with
  | nil =>
      cases h
      exact ⟨[], rfl, rfl, fun _ ↦ rfl⟩
  | cons c rest ih =>
      obtain ⟨joint, more, rfl, hjoint, hmore⟩ :=
        (drop_symbol_chars_cons_iff c rest tokens left).mp h
      obtain ⟨front, hlength, rfl, htail⟩ := ih hmore
      refine ⟨.punct c joint :: front, by simp [hlength], rfl, fun tail ↦ ?_⟩
      exact (drop_symbol_chars_cons_iff c rest _ tail).mpr
        ⟨joint, front ++ tail, rfl, hjoint, htail tail⟩

instance alike_symbol (text : String) : Alike a b (symbol text) (symbol text) where
  read := by
    intro tokens left written _ h
    obtain ⟨hdrop, rfl⟩ := symbol_eq_some_iff.mp h
    obtain ⟨front, -, rfl, htail⟩ := drop_symbol_chars_takes hdrop
    exact ⟨front, rfl, fun {tail} _ _ ↦ symbol_eq_some_iff.mpr ⟨htail tail, rfl⟩⟩

/-- A symbol with a character in it is at least one token. -/
theorem Advances.of_symbol {text : String} (hne : text.toList ≠ []) :
    Advances a b (symbol text) (symbol text) where
  less := by
    rintro tokens left written - h rfl
    obtain ⟨hdrop, -⟩ := symbol_eq_some_iff.mp h
    obtain ⟨front, hlength, hfront, -⟩ := drop_symbol_chars_takes hdrop
    have hnil : front = [] := by simpa using hfront
    rw [hnil] at hlength
    exact hne (List.length_eq_zero_iff.mp hlength.symm)

instance advances_symbol (text : String) [apart : Apart text] :
    Advances a b (symbol text) (symbol text) :=
  .of_symbol apart.ne_nil

instance advances_comma : Advances a b (symbol ",") (symbol ",") :=
  .of_symbol (by decide)

instance alike_symbol? (text : String) [Apart text] : Alike a b (symbol? text) (symbol? text) := by
  unfold symbol?
  infer_instance

instance advances_word (text : String) : Advances a b (word text) (word text) :=
  .of_takes fun h ↦ by
    unfold word at h
    split at h
    · split at h
      · cases h
        exact ⟨[_], by simp, rfl, fun tail ↦ by simp [word, *]⟩
      · cases h
    · cases h

instance alike_word? (text : String) : Alike a b (word? text) (word? text) := by
  unfold word?
  infer_instance

instance advances_any_word : Advances a b anyWord anyWord :=
  .of_takes fun h ↦ by
    unfold anyWord at h
    split at h
    · cases h
      exact ⟨[_], by simp, rfl, fun _ ↦ rfl⟩
    · cases h

instance advances_name : Advances a b Parser.name Parser.name :=
  .of_takes fun h ↦ by
    unfold Parser.name at h
    split at h
    · split at h
      · cases h
      · cases h
        exact ⟨[_], by simp, rfl, fun tail ↦ by simp [Parser.name, *]⟩
    · cases h

instance advances_name_token : Advances a b nameToken nameToken := by
  unfold nameToken
  infer_instance

instance advances_lifetime : Advances a b lifetime lifetime :=
  .of_takes fun h ↦ by
    unfold lifetime at h
    split at h
    · cases h
      exact ⟨[_, _], by simp, rfl, fun _ ↦ rfl⟩
    · cases h

instance alike_lifetime? : Alike a b lifetime? lifetime? := by
  unfold lifetime?
  infer_instance

instance advances_literal : Advances a b literal literal :=
  .of_takes fun h ↦ by
    unfold literal at h
    split at h
    · cases h
      exact ⟨[_], by simp, rfl, fun _ ↦ rfl⟩
    · split at h
      · cases h
        exact ⟨[_], by simp, rfl, fun tail ↦ by simp [literal, *]⟩
      · cases h
    · split at h
      · cases h
        exact ⟨[_, _], by simp, rfl, fun tail ↦ by simp [literal, *]⟩
      · cases h
    · cases h

instance advances_string_literal : Advances a b stringLiteral stringLiteral :=
  .of_takes fun h ↦ by
    unfold stringLiteral at h
    split at h
    · split at h
      · cases h
        exact ⟨[_], by simp, rfl, fun tail ↦ by simp [stringLiteral, *]⟩
      · cases h
    · cases h

instance advances_any_group : Advances a b anyGroup anyGroup :=
  .of_takes fun h ↦ by
    unfold anyGroup at h
    split at h
    · cases h
      exact ⟨[_], by simp, rfl, fun _ ↦ rfl⟩
    · cases h

/-- What a group encloses does not depend on what stands behind the group. -/
instance advances_inside (delimiter : Delimiter) (content : Parser α) :
    Advances a b (inside delimiter content) (inside delimiter content) :=
  .of_takes fun h ↦ by
    unfold inside at h
    split at h
    · split at h
      · split at h
        · cases h
          exact ⟨[_], by simp, rfl, fun tail ↦ by simp [inside, *]⟩
        · cases h
      · cases h
    · cases h

instance advances_group (delimiter : Delimiter) (content : Parser (List Token)) :
    Advances a b (group delimiter content) (group delimiter content) := by
  unfold group
  infer_instance

/-- In a group one level less is enough. -/
theorem Advances.of_inside (delimiter : Delimiter)
    (h : ∀ k l, Alike ⟨k, a.count - 1⟩ ⟨l, b.count - 1⟩ p q) :
    Advances a b (inside delimiter p) (inside delimiter q) where
  read := by
    intro tokens left value hfits hp
    unfold inside at hp
    split at hp
    · rename_i found body rest
      split at hp
      · split at hp
        · rename_i hdelimiter _ _ hbody
          cases hp
          refine ⟨[.group found body], rfl, fun {tail} _ htail ↦ ?_⟩
          have hcount : Token.countList body < a.count - 1 := by
            have := hfits.2
            simp only [Token.countList, Token.count] at this
            omega
          have hcount' : Token.countList body < b.count - 1 := by
            have := htail.2
            simp only [List.singleton_append, Token.countList, Token.count] at this
            omega
          obtain ⟨front, hfront, hq⟩ := (h (body.length + 1) (body.length + 1)).read
            ⟨Nat.lt_succ_self _, hcount⟩ hbody
          rw [List.append_nil] at hfront
          subst hfront
          have hsame := hq (.refl []) (by rw [List.append_nil]; exact ⟨Nat.lt_succ_self _, hcount'⟩)
          rw [List.append_nil] at hsame
          simp [inside, hdelimiter, hsame]
        · cases hp
      · cases hp
    · cases hp
  less := (advances_inside delimiter p (b := b)).less

/-- Parsers that read alike do so within lower limits. -/
theorem Alike.mono {a' b' : Limit} (h : Alike a b p q)
    (ha : a'.length ≤ a.length ∧ a'.count ≤ a.count)
    (hb : b'.length ≤ b.length ∧ b'.count ≤ b.count) : Alike a' b' p q where
  read hfits hp := by
    obtain ⟨front, hfront, hq⟩ := h.read ⟨hfits.1.trans_le ha.1, hfits.2.trans_le ha.2⟩ hp
    exact ⟨front, hfront, fun hsame htail ↦
      hq hsame ⟨htail.1.trans_le hb.1, htail.2.trans_le hb.2⟩⟩

instance (priority := low) advances_inside_count (delimiter : Delimiter)
    [h : ∀ k l, Alike ⟨k, n⟩ ⟨l, m⟩ p q] :
    Advances ⟨k, n + 1⟩ ⟨l, m + 1⟩ (inside delimiter p) (inside delimiter q) :=
  .of_inside delimiter h

instance (priority := low) advances_inside_alike (delimiter : Delimiter)
    [h : ∀ k l, Alike ⟨k, a.count⟩ ⟨l, b.count⟩ p q] :
    Advances a b (inside delimiter p) (inside delimiter q) :=
  .of_inside delimiter fun k l ↦
    (h k l).mono ⟨Nat.le_refl _, Nat.sub_le _ _⟩ ⟨Nat.le_refl _, Nat.sub_le _ _⟩

instance (priority := low) advances_group_count (delimiter : Delimiter)
    {content content' : Parser (List Token)} [∀ k l, Alike ⟨k, n⟩ ⟨l, m⟩ content content'] :
    Advances ⟨k, n + 1⟩ ⟨l, m + 1⟩ (group delimiter content) (group delimiter content') := by
  unfold group
  infer_instance

instance (priority := low) advances_group_alike (delimiter : Delimiter)
    {content content' : Parser (List Token)}
    [∀ k l, Alike ⟨k, a.count⟩ ⟨l, b.count⟩ content content'] :
    Advances a b (group delimiter content) (group delimiter content') := by
  unfold group
  infer_instance

instance alike_when (look : Ahead) [Steady look] {p q : Parser (List Token)} [Alike a b p q] :
    Alike a b (when look p) (when look q) := by
  unfold when
  infer_instance

instance alike_verbatim [h : Alike a b p q] : Alike a b (verbatim p) (verbatim q) := by
  have hsource : Alike a b (withSource p) (withSource q) := by
    constructor
    intro tokens left value hfits hp
    unfold withSource at hp
    split at hp
    · rename_i found rest hfound
      cases hp
      obtain ⟨front, rfl, hq⟩ := h.read hfits hfound
      refine ⟨front, rfl, fun {tail} hsame htail ↦ ?_⟩
      simp [withSource, hq hsame htail]
    · cases hp
  unfold verbatim
  infer_instance

/-! ### Loops -/

section loops

/-- A loop that reads items while a test holds goes forward. -/
theorem forward_while_fuel (look : Ahead) (item : Parser (List Token)) [Forward item] :
    ∀ k, Forward (whileFuel look item k)
  | 0 => by unfold whileFuel; infer_instance
  | k + 1 => by
      have := forward_while_fuel look item k
      unfold whileFuel
      infer_instance

/-- Such a loop reads alike if the test sees no further than a break and each item takes a token. -/
theorem alike_while_fuel (look : Ahead) [Steady look] (item : Parser (List Token))
    [hitem : ∀ a b, Advances a b item item] :
    ∀ k l, Alike ⟨k, n⟩ ⟨l, m⟩ (whileFuel look item k) (whileFuel look item l) := by
  refine .of_step (forward_while_fuel look item) fun k l ih ↦ ?_
  unfold whileFuel
  infer_instance

instance alike_many (look : Ahead) [Steady look] (item : Parser (List Token))
    [hitem : ∀ a b, Advances a b item item] : Alike a b (many look item) (many look item) :=
  .of_steps (alike_while_fuel look item)

/-- A loop over items with a separator goes forward. -/
theorem forward_separated_fuel (stop : Ahead) (separator : String) (item : Parser (List Token))
    [Forward item] : ∀ k, Forward (separatedFuel stop separator item k)
  | 0 => by unfold separatedFuel; infer_instance
  | k + 1 => by
      have := forward_separated_fuel stop separator item k
      unfold separatedFuel
      infer_instance

/-- Such a loop reads alike if its items do. -/
theorem alike_separated_fuel (stop : Ahead) [Steady stop] (separator : String)
    [Apart separator] (item : Parser (List Token)) [hitem : ∀ a b, Alike a b item item] :
    ∀ k l, Alike ⟨k, n⟩ ⟨l, m⟩ (separatedFuel stop separator item k)
      (separatedFuel stop separator item l) := by
  refine .of_step (forward_separated_fuel stop separator item) fun k l ih ↦ ?_
  unfold separatedFuel
  infer_instance

instance alike_separated (stop : Ahead) [Steady stop] (separator : String) [Apart separator]
    (item : Parser (List Token)) [hitem : ∀ a b, Alike a b item item] :
    Alike a b (separated stop separator item) (separated stop separator item) :=
  .of_steps (alike_separated_fuel stop separator item)

/-- A loop over items with commas between them goes forward. -/
theorem forward_items_fuel (stop : Ahead) (item : Parser α) [Forward item] :
    ∀ k, Forward (itemsFuel stop item k)
  | 0 => by unfold itemsFuel; infer_instance
  | k + 1 => by
      have := forward_items_fuel stop item k
      unfold itemsFuel
      infer_instance

/-- Such a loop reads alike if its items do. -/
theorem alike_items_fuel (stop : Ahead) [Steady stop] (item item' : Parser α)
    [hitem : ∀ k l, Alike ⟨k, n⟩ ⟨l, m⟩ item item'] [Forward item] :
    ∀ k l, Alike ⟨k, n⟩ ⟨l, m⟩ (itemsFuel stop item k) (itemsFuel stop item' l) := by
  refine .of_step (forward_items_fuel stop item) fun k l ih ↦ ?_
  unfold itemsFuel
  infer_instance

instance alike_items (stop : Ahead) [Steady stop] {item item' : Parser α}
    [hitem : ∀ k l, Alike ⟨k, a.count⟩ ⟨l, b.count⟩ item item'] [Forward item] :
    Alike a b (items stop item) (items stop item') :=
  .of_steps (alike_items_fuel stop item item')

instance alike_comma_separated (stop : Ahead) [Steady stop] (item : Parser (List Token))
    [hitem : ∀ a b, Alike a b item item] :
    Alike a b (commaSeparated stop item) (commaSeparated stop item) := by
  unfold commaSeparated
  infer_instance

end loops

/-! ### Where something has to follow -/

section within

/-- What the test sees does not depend on what stands behind a break, if something is left. -/
class SteadyWithin (look : Ahead) : Prop where
  same : ∀ {first second : List Token}, SameToBreak first second → first ≠ [] → second ≠ [] →
    look first = look second

/-- The parsers read alike where something is left behind what they read, on both sides. -/
class AlikeWithin (a b : Limit) (p q : Parser α) : Prop where
  read : ∀ {tokens left : List Token} {value : α}, a.Fits tokens → p tokens = some (value, left) →
    ∃ front, tokens = front ++ left ∧ ∀ {tail : List Token}, SameToBreak left tail → left ≠ [] →
      tail ≠ [] → b.Fits (front ++ tail) → q (front ++ tail) = some (value, tail)

instance steady_within_comma {tests : List Ahead} [htests : Steady (anyOf tests)] :
    SteadyWithin (anyOf (isSymbol "," :: tests)) where
  same h hfirst hsecond := by
    have hbreak : Steady (anyOf (atEnd :: isSymbol "," :: tests)) := inferInstance
    have hsame := hbreak.same h
    simp only [anyOf, List.any_cons] at hsame ⊢
    have hend : ∀ tokens : List Token, tokens ≠ [] → atEnd tokens = false := by
      intro tokens hne
      cases tokens with
      | nil => exact absurd rfl hne
      | cons token rest => rfl
    rwa [hend _ hfirst, hend _ hsecond, Bool.false_or, Bool.false_or] at hsame

instance (priority := low) alike_within_of_alike [h : Alike a b p q] : AlikeWithin a b p q where
  read hfits hp := by
    obtain ⟨front, hfront, hq⟩ := h.read hfits hp
    exact ⟨front, hfront, fun hsame _ _ htail ↦ hq hsame htail⟩

instance (priority := low) forward_of_alike_within [h : ∀ a, AlikeWithin a a p p] : Forward p where
  suffix {tokens left value} hp := by
    obtain ⟨front, rfl, -⟩ :=
      (h ⟨tokens.length + 1, Token.countList tokens + 1⟩).read ⟨by simp, by simp⟩ hp
    exact ⟨front, rfl⟩

instance alike_within_ahead (look : Ahead) [steady : SteadyWithin look] :
    AlikeWithin a b (ahead look) (ahead look) where
  read := by
    rintro tokens left found - h
    cases h
    refine ⟨[], rfl, fun {tail} hsame hleft htail _ ↦ ?_⟩
    rw [List.nil_append, ahead, steady.same hsame hleft htail]

instance alike_within_ite {c : Prop} [Decidable c] [hp : AlikeWithin a b p q]
    [hp' : AlikeWithin a b p' q'] :
    AlikeWithin a b (if c then p else p') (if c then q else q') := by
  split <;> assumption

/-- If something is left behind what follows a step, something is left behind the step. -/
theorem AlikeWithin.bind {a' b' : Limit} (hp : AlikeWithin a b p q)
    (hf : ∀ value, AlikeWithin a' b' (f value) (g value))
    (hleft : ∀ {front middle : List Token} {value : α}, a.Fits (front ++ middle) →
      p (front ++ middle) = some (value, middle) →
        a'.Fits middle ∧ ∀ {tail : List Token}, b.Fits (front ++ tail) → b'.Fits tail) :
    AlikeWithin a b (p >>= f) (q >>= g) where
  read := by
    intro tokens left value htokens h
    obtain ⟨first, middle, hfirst, hrest⟩ := bind_eq_some_iff.mp h
    obtain ⟨front, rfl, hfront⟩ := hp.read htokens hfirst
    obtain ⟨hmiddle, htail⟩ := hleft htokens hfirst
    obtain ⟨front', rfl, hfront'⟩ := (hf first).read hmiddle hrest
    refine ⟨front ++ front', by rw [List.append_assoc], ?_⟩
    intro tail hsame hne hne' hfits
    rw [List.append_assoc] at hfits ⊢
    exact bind_eq_some_iff.mpr
      ⟨first, front' ++ tail,
        hfront (hsame.append front') (List.append_ne_nil_of_right_ne_nil _ hne)
          (List.append_ne_nil_of_right_ne_nil _ hne') hfits,
        hfront' hsame hne hne' (htail hfits)⟩

instance alike_within_bind [hp : AlikeWithin a b p q]
    [hf : ∀ value, AlikeWithin a b (f value) (g value)] :
    AlikeWithin a b (p >>= f) (q >>= g) :=
  hp.bind hf fun hfits _ ↦ ⟨hfits.rest, Limit.Fits.rest⟩

instance (priority := low) alike_within_bind_length [hp : Advances ⟨k + 1, n⟩ ⟨l + 1, m⟩ p q]
    [hf : ∀ value, AlikeWithin ⟨k, n⟩ ⟨l, m⟩ (f value) (g value)] :
    AlikeWithin ⟨k + 1, n⟩ ⟨l + 1, m⟩ (p >>= f) (q >>= g) :=
  alike_within_of_alike.bind hf fun hfits h ↦
    ⟨hfits.rest_length (hp.ne_nil hfits h), fun htail ↦ htail.rest_length (hp.ne_nil hfits h)⟩

/-- What follows a step and reads nothing from nothing asks for something to be left behind it. -/
theorem Alike.bind_within (hp : AlikeWithin a b p q) (hf : ∀ value, Alike a b (f value) (g value))
    (hnil : ∀ value, f value [] = none) (hnil' : ∀ value, g value [] = none) :
    Alike a b (p >>= f) (q >>= g) where
  read := by
    intro tokens left value htokens h
    obtain ⟨first, middle, hfirst, hrest⟩ := bind_eq_some_iff.mp h
    obtain ⟨front, rfl, hfront⟩ := hp.read htokens hfirst
    obtain ⟨front', rfl, hfront'⟩ := (hf first).read htokens.rest hrest
    refine ⟨front ++ front', by rw [List.append_assoc], ?_⟩
    intro tail hsame hfits
    rw [List.append_assoc] at hfits ⊢
    have hsecond := hfront' hsame hfits.rest
    -- On both sides something is left behind the step, as what follows it could be read.
    refine bind_eq_some_iff.mpr ⟨first, front' ++ tail, hfront (hsame.append front') ?_ ?_ hfits,
      hsecond⟩
    · intro hempty
      rw [hempty, hnil] at hrest
      cases hrest
    · intro hempty
      rw [hempty, hnil'] at hsecond
      cases hsecond

/-! ### Loops whose items need a stop or a comma behind them -/

/-- Without steps on the first side there is nothing to read. -/
theorem AlikeWithin.of_left_zero : AlikeWithin ⟨0, n⟩ b p q :=
  have : Alike ⟨0, n⟩ b p q := .of_left_zero
  inferInstance

/-- Where the other side has no steps, it is enough that the first goes forward. -/
theorem AlikeWithin.of_right_zero [Forward p] : AlikeWithin a ⟨0, m⟩ p q :=
  have : Alike a ⟨0, m⟩ p q := .of_right_zero
  inferInstance

/-- A loop with a step for each token reads alike if it does with any number of steps. -/
theorem AlikeWithin.of_steps {loop loop' : Nat → Parser α}
    (h : ∀ k l, AlikeWithin ⟨k, n⟩ ⟨l, m⟩ (loop k) (loop' l)) :
    AlikeWithin ⟨k, n⟩ ⟨l, m⟩ (fun tokens ↦ loop (tokens.length + 1) tokens)
      (fun tokens ↦ loop' (tokens.length + 1) tokens) where
  read := by
    intro tokens left value hfits hread
    have hloop (l : Nat) :
        AlikeWithin ⟨tokens.length + 1, n⟩ ⟨l, m⟩ (loop (tokens.length + 1)) (loop' l) := h _ l
    obtain ⟨front, rfl, -⟩ := (hloop 0).read ⟨Nat.lt_succ_self _, hfits.2⟩ hread
    refine ⟨front, rfl, fun {tail} hsame hne hne' htail ↦ ?_⟩
    obtain ⟨front', hfront', hsecond⟩ :=
      (hloop ((front ++ tail).length + 1)).read ⟨Nat.lt_succ_self _, hfits.2⟩ hread
    obtain rfl := List.append_cancel_right hfront'
    exact hsecond hsame hne hne' ⟨Nat.lt_succ_self _, htail.2⟩

/-- A loop over items with a separator reads alike as long as something is left behind it. -/
theorem alike_within_separated_fuel (stop : Ahead) [SteadyWithin stop] (separator : String)
    [Apart separator] (item item' : Parser (List Token))
    [hitem : ∀ k l, Alike ⟨k, n⟩ ⟨l, m⟩ item item'] [Forward item] :
    ∀ k l, AlikeWithin ⟨k, n⟩ ⟨l, m⟩ (separatedFuel stop separator item k)
      (separatedFuel stop separator item' l)
  | 0, _ => .of_left_zero
  | k + 1, 0 => by
      have := forward_separated_fuel stop separator item (k + 1)
      exact .of_right_zero
  | k + 1, l + 1 => by
      have := alike_within_separated_fuel stop separator item item' k l
      unfold separatedFuel
      infer_instance

instance alike_within_separated (stop : Ahead) [SteadyWithin stop] (separator : String)
    [Apart separator] {item item' : Parser (List Token)}
    [hitem : ∀ k l, Alike ⟨k, a.count⟩ ⟨l, b.count⟩ item item'] [Forward item] :
    AlikeWithin a b (separated stop separator item) (separated stop separator item') :=
  .of_steps (alike_within_separated_fuel stop separator item item')

/-- The end is no stop here, so that behind each item of a loop something is left. -/
theorem alike_items_within_fuel (stop : Ahead) [Steady stop] [silent : Silent stop]
    (item item' : Parser α) [hitem : ∀ k l, AlikeWithin ⟨k, n⟩ ⟨l, m⟩ item item'] [Forward item] :
    ∀ k l, Alike ⟨k, n⟩ ⟨l, m⟩ (itemsFuel stop item k) (itemsFuel stop item' l) := by
  refine .of_step (forward_items_fuel stop item) fun k l ih ↦ ?_
  have hend : stop [] = false := silent.at_break .nil
  have hrest : Alike ⟨k + 1, n⟩ ⟨l + 1, m⟩
      (item >>= fun first ↦ do
        if ← ahead stop then return [(first, [])]
        let comma ← symbol ","
        let more ← itemsFuel stop item k
        return (first, comma) :: more)
      (item' >>= fun first ↦ do
        if ← ahead stop then return [(first, [])]
        let comma ← symbol ","
        let more ← itemsFuel stop item' l
        return (first, comma) :: more) := by
    refine .bind_within (hitem _ _) (fun _ ↦ inferInstance) (fun first ↦ ?_) (fun first ↦ ?_)
    · simp [Bind.bind, StateT.bind, ahead, hend, symbol, dropSymbolChars]
    · simp [Bind.bind, StateT.bind, ahead, hend, symbol, dropSymbolChars]
  unfold itemsFuel
  infer_instance

instance (priority := low) alike_items_within (stop : Ahead) [Steady stop] [Silent stop]
    {item item' : Parser α}
    [hitem : ∀ k l, AlikeWithin ⟨k, a.count⟩ ⟨l, b.count⟩ item item'] [Forward item] :
    Alike a b (items stop item) (items stop item') :=
  .of_steps (alike_items_within_fuel stop item item')

end within

/-! ### In front of a break -/

/-- What is read in front of a break is read alone. -/
theorem read_before_break_iff (h : ∀ a b, Alike a b p p) {tokens left : List Token} {value : α}
    (hbreak : AtBreak left) :
    p tokens = some (value, left) ↔
      ∃ front, tokens = front ++ left ∧ p front = some (value, []) := by
  have hfits (tokens : List Token) :
      Limit.Fits ⟨tokens.length + 1, Token.countList tokens + 1⟩ tokens :=
    ⟨Nat.lt_succ_self _, Nat.lt_succ_self _⟩
  constructor
  · intro hp
    -- What is read stays the same when the break and all behind it are cut off.
    obtain ⟨front, rfl, -⟩ := (h _ ⟨0, 0⟩).read (hfits tokens) hp
    obtain ⟨front', hfront', htail⟩ := (h _ _).read (hfits (front ++ left)) hp
    obtain rfl := List.append_cancel_right hfront'
    have halone := htail (.atBreak hbreak .nil) (hfits (front ++ []))
    rw [List.append_nil] at halone
    exact ⟨front, rfl, halone⟩
  · rintro ⟨front, rfl, halone⟩
    obtain ⟨front', hfront', htail⟩ := (h _ _).read (hfits front) halone
    rw [List.append_nil] at hfront'
    subst hfront'
    exact htail (.atBreak .nil hbreak) (hfits (front ++ left))

end together

end EndpointGuard.Source
