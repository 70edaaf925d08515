import EndpointGuard.Json
import EndpointGuard.Text.Digit

/-!
# Lexemes of JSON text

Readers for the parts of a JSON text that hold no other values: blanks, words, strings and numerals.
A reader takes the remaining characters and answers what it read with the characters after it, or
the fault it met first.
-/

namespace EndpointGuard.Json

/-- Why a text cannot be read: it ends too early, it breaks the rules of JSON, or it holds a value
of the wrong type. -/
inductive Fault where
  | ended
  | malformed
  | mistyped
deriving DecidableEq

/-- Drop the blanks that may stand between lexemes. -/
def skipBlanks (text : List Char) : List Char :=
  text.dropWhile fun c ↦ c = ' ' ∨ c = '\n' ∨ c = '\t' ∨ c = '\r'

/-- Read a fixed word. -/
def readWord : List Char → List Char → Except Fault (List Char)
  | [], text => .ok text
  | _ :: _, [] => .error .ended
  | c :: word, d :: text => if c = d then readWord word text else .error .malformed

/-- The number written by hexadecimal digits. -/
def hexNumber? (digits : List Char) : Option Nat :=
  digits.foldlM (fun n c ↦ (Text.hexValue? c).map (n * 16 + ·)) 0

/-- Read the four digits of a hexadecimal escape. The text has ended when fewer than four bytes are
left. -/
def readHex4 (text : List Char) : Except Fault Nat :=
  let digits := text.take 4
  if (String.ofList digits).utf8ByteSize < 4 then .error .ended
  else
    match hexNumber? digits with
    | some n => if digits.length = 4 then .ok n else .error .malformed
    | none => .error .malformed

/-- The number is the first half of a surrogate pair. -/
def isHighSurrogate (n : Nat) : Bool :=
  0xd800 ≤ n && n ≤ 0xdbff

/-- The number is the second half of a surrogate pair. -/
def isLowSurrogate (n : Nat) : Bool :=
  0xdc00 ≤ n && n ≤ 0xdfff

/-- The character of a one-letter escape. -/
def shortEscape? : Char → Option Char
  | '"' => some '"'
  | '\\' => some '\\'
  | '/' => some '/'
  | 'b' => some '\x08'
  | 'f' => some '\x0c'
  | 'n' => some '\n'
  | 'r' => some '\r'
  | 't' => some '\t'
  | _ => none

/-- Read the second half of a surrogate pair, its backslash included. -/
def readLowSurrogate (high : Nat) : List Char → Except Fault Char
  | [] => .error .ended
  | '\\' :: [] => .error .ended
  | '\\' :: 'u' :: rest =>
    match readHex4 rest with
    | .error fault => .error fault
    | .ok low =>
      if isLowSurrogate low then
        .ok (Char.ofNat ((high - 0xd800) * 0x400 + (low - 0xdc00) + 0x10000))
      else
        .error .malformed
  | _ => .error .malformed

/-- Read an escape after its backslash: the character and the number of characters used. -/
def readEscape : List Char → Except Fault (List Char × Nat)
  | [] => .error .ended
  | c :: rest =>
    if c = 'u' then
      match readHex4 rest with
      | .error fault => .error fault
      | .ok n =>
        if isLowSurrogate n then .error .malformed
        else if isHighSurrogate n then
          match readLowSurrogate n (rest.drop 4) with
          | .error fault => .error fault
          | .ok c => .ok ([c], 11)
        else .ok ([Char.ofNat n], 5)
    else
      match shortEscape? c with
      | some d => .ok ([d], 1)
      | none => .error .malformed

/-- Pass over an escape after its backslash, without regard to what it denotes. -/
def skipEscape : List Char → Except Fault (List Char × Nat)
  | [] => .error .ended
  | c :: rest =>
    if c = 'u' then
      match readHex4 rest with
      | .error fault => .error fault
      | .ok _ => .ok ([], 5)
    else
      match shortEscape? c with
      | some _ => .ok ([], 1)
      | none => .error .malformed

/-- Read the characters of a string up to its closing quote, after passing over the first `skipped`
of them; `escape` reads what follows a backslash. -/
def stringFrom (escape : List Char → Except Fault (List Char × Nat)) :
    Nat → List Char → Except Fault (List Char × List Char)
  | _, [] => .error .ended
  | skipped + 1, _ :: rest => stringFrom escape skipped rest
  | 0, c :: rest =>
    if c = '"' then
      .ok ([], rest)
    else if c = '\\' then
      match escape rest with
      | .error fault => .error fault
      | .ok (found, used) =>
        match stringFrom escape used rest with
        | .error fault => .error fault
        | .ok (more, rest) => .ok (found ++ more, rest)
    else if c.toNat < 0x20 then
      .error .malformed
    else
      match stringFrom escape 0 rest with
      | .error fault => .error fault
      | .ok (more, rest) => .ok (c :: more, rest)

/-- Read a string after its opening quote. -/
def readString (text : List Char) : Except Fault (String × List Char) :=
  match stringFrom readEscape 0 text with
  | .error fault => .error fault
  | .ok (found, rest) => .ok (String.ofList found, rest)

/-- Pass over a string after its opening quote. -/
def skipString (text : List Char) : Except Fault (List Char) :=
  (stringFrom skipEscape 0 text).map Prod.snd

/-- The number written by decimal digits. -/
def digitsValue (digits : List Char) : Nat :=
  digits.foldl (fun n c ↦ n * 10 + (c.toNat - 48)) 0

/-- The parts of a numeral: its sign, the digits before and after the point, and the exponent. -/
structure Numeral where
  negative : Bool
  integer : List Char
  fraction : Option (List Char)
  exponent : Option (Bool × List Char)

/-- Read at least one digit. -/
def readDigits (text : List Char) : Except Fault (List Char × List Char) :=
  match text with
  | [] => .error .ended
  | c :: _ =>
    if c.isDigit then .ok (text.takeWhile Char.isDigit, text.dropWhile Char.isDigit)
    else .error .malformed

/-- Read the digits before the point: a zero alone, or digits that begin with another one. -/
def readInteger (text : List Char) : Except Fault (List Char × List Char) :=
  match text with
  | '0' :: c :: rest => if c.isDigit then .error .malformed else .ok (['0'], c :: rest)
  | _ => readDigits text

/-- Read the point and the digits after it, if there is a point. -/
def readFraction : List Char → Except Fault ((Option (List Char)) × List Char)
  | '.' :: rest => (readDigits rest).map fun (digits, rest) ↦ (some digits, rest)
  | text => .ok (none, text)

/-- Read the exponent with its sign, if there is one. -/
def readExponent : List Char → Except Fault ((Option (Bool × List Char)) × List Char)
  | [] => .ok (none, [])
  | c :: rest =>
    if c = 'e' ∨ c = 'E' then
      match rest with
      | '-' :: rest => (readDigits rest).map fun (digits, rest) ↦ (some (true, digits), rest)
      | '+' :: rest => (readDigits rest).map fun (digits, rest) ↦ (some (false, digits), rest)
      | _ => (readDigits rest).map fun (digits, rest) ↦ (some (false, digits), rest)
    else
      .ok (none, c :: rest)

/-- Read a numeral. -/
def readNumeral (text : List Char) : Except Fault (Numeral × List Char) := do
  let (negative, unsigned) :=
    match text with
    | '-' :: rest => (true, rest)
    | _ => (false, text)
  let (integer, rest) ← readInteger unsigned
  let (fraction, rest) ← readFraction rest
  let (exponent, rest) ← readExponent rest
  pure (⟨negative, integer, fraction, exponent⟩, rest)

/-- The least number that no longer fits a floating-point number of 64 bits. -/
def floatBound : Nat :=
  Nat.pow 2 1024 - Nat.pow 2 970

namespace Numeral

/-- The numeral has neither a point nor an exponent. -/
def isInteger (number : Numeral) : Bool :=
  number.fraction.isNone && number.exponent.isNone

/-- The numeral denotes a number too large for a floating-point number of 64 bits. -/
def overflows (number : Numeral) : Bool :=
  let fraction := number.fraction.getD []
  let digits := number.integer ++ fraction
  let mantissa := digitsValue digits
  let (down, power) := number.exponent.getD (false, [])
  let power := digitsValue power
  let places := fraction.length
  if mantissa = 0 then false
  else if down then
    digits.length > power + places && mantissa ≥ floatBound * Nat.pow 10 (power + places)
  else if power ≥ places then
    power - places > 400 || mantissa * Nat.pow 10 (power - places) ≥ floatBound
  else
    digits.length > places - power && mantissa ≥ floatBound * Nat.pow 10 (places - power)

/-- The numeral as it was written. -/
def text (number : Numeral) : String :=
  String.ofList <|
    (if number.negative then ['-'] else []) ++ number.integer ++
    (match number.fraction with
      | some digits => '.' :: digits
      | none => []) ++
    (match number.exponent with
      | some (true, digits) => 'e' :: '-' :: digits
      | some (false, digits) => 'e' :: digits
      | none => [])

/-- The value of a numeral: a whole number for a plain digit string of at most 64 bits. -/
def toJson (number : Numeral) : Json :=
  let n := digitsValue number.integer
  if number.isInteger ∧ ¬ number.negative ∧ n < Nat.pow 2 64 then .whole n else .numeral number.text

end Numeral

/-- Read a number that fits a floating-point number of 64 bits. -/
def readNumber (text : List Char) : Except Fault (Json × List Char) := do
  let (number, rest) ← readNumeral text
  if number.overflows then .error .malformed else pure (number.toJson, rest)

end EndpointGuard.Json
