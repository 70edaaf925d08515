import EndpointGuard.Text.CaseTable

/-!
# Lower case

Lower-casing of whole texts by the full Unicode mapping. Two capital letters do not follow the
table of single letters: dotted capital I becomes two characters, and capital sigma becomes the
final form at the end of a word. `lowerCase` is the key under which names are compared.
-/

namespace EndpointGuard.Text

/-- The small form of a letter of the run, if the run holds the code point. -/
def CapitalRun.lower? (run : CapitalRun) (code : Nat) : Option Nat :=
  if run.first ≤ code ∧ code ≤ run.last ∧ (code - run.first) % run.step = 0 then
    some (run.small + (code - run.first))
  else
    none

/-- The small form of a character out of context; a character without one stays itself. -/
def lowerChar (c : Char) : List Char :=
  if c = '\u0130' then
    ['i', '\u0307']
  else
    match capitals.findSome? fun run ↦ run.lower? c.toNat with
    | some code => [Char.ofNat code]
    | none => [c]

/-- Passing over case-ignorable characters, the list begins with a letter that has a case. -/
def meetsCased (text : List Char) : Bool :=
  match text.dropWhile (contains caseIgnorable) with
  | [] => false
  | c :: _ => contains cased c

/-- The small sigma between the characters `before`, nearest first, and `after`: the final form
when a cased letter stands before and none stands after. -/
def lowerSigma (before after : List Char) : Char :=
  if meetsCased before && !meetsCased after then '\u03c2' else '\u03c3'

/-- Lower-case the remaining characters of a text whose earlier ones, nearest first, are
`before`. -/
def lowerAfter (before : List Char) : List Char → List Char
  | [] => []
  | c :: rest =>
    (if c = '\u03a3' then [lowerSigma before rest] else lowerChar c) ++
      lowerAfter (c :: before) rest

/-- The text in lower case. -/
def lowerCase (text : String) : String :=
  String.ofList (lowerAfter [] text.toList)

/-- The small form of an ASCII capital letter; any other character stays itself. -/
def lowerAscii (c : Char) : Char :=
  if 'A' ≤ c ∧ c ≤ 'Z' then Char.ofNat (c.toNat + 32) else c

end EndpointGuard.Text
