import EndpointGuard.Source.Token
import EndpointGuard.Text.Blank
import EndpointGuard.Text.Digit
import EndpointGuard.Text.NameTable
import EndpointGuard.Text.Quoted

/-!
# From text to tokens

`tokenize?` reads Rust source text as token trees. Comments vanish, and documentation comments
become attributes. Every reader of a lexeme takes the remaining characters and answers the
characters after the lexeme, or nothing if no such lexeme begins there.
-/

namespace EndpointGuard.Source

/-- The character may begin an identifier. -/
def isNameStart (c : Char) : Bool :=
  c = '_' || c.isAlpha || (c.toNat ≥ 0x80 && Text.contains Text.identifierStart c)

/-- The character may continue an identifier. -/
def isNameContinue (c : Char) : Bool :=
  c = '_' || c.isAlphanum || (c.toNat ≥ 0x80 && Text.contains Text.identifierContinue c)

/-- The next character satisfies `p`. -/
def nextIs (p : Char → Bool) : List Char → Bool
  | [] => false
  | c :: _ => p c

/-- Read an identifier without a raw mark. -/
def plainName? (text : List Char) : Option (List Char × List Char) :=
  if nextIs isNameStart text then
    some (text.takeWhile isNameContinue, text.dropWhile isNameContinue)
  else
    none

/-- The names that have no raw form. -/
def neverRaw : List String :=
  ["_", "super", "self", "Self", "crate"]

/-- Read an identifier, its raw mark included. -/
def anyName? (text : List Char) : Option (String × List Char) :=
  match text with
  | 'r' :: '#' :: rest =>
    match plainName? rest with
    | some (name, rest) =>
      if String.ofList name ∈ neverRaw then none else some ("r#" ++ String.ofList name, rest)
    | none => none
  | _ => (plainName? text).map fun (name, rest) ↦ (String.ofList name, rest)

/-- The characters after an optional suffix of a literal. -/
def dropSuffix (text : List Char) : List Char :=
  if nextIs isNameStart text then text.dropWhile isNameContinue else text

/-! ## Escapes -/

/-- The number of blanks, line ends included, with which a continued line goes on. The text must not
end there, and a carriage return is only a blank in front of a line feed. -/
def continuationLength : List Char → Option Nat
  | [] => none
  | '\r' :: '\n' :: rest => (continuationLength rest).map (· + 2)
  | '\r' :: _ => none
  | c :: rest =>
    if c = ' ' ∨ c = '\t' ∨ c = '\n' then (continuationLength rest).map (· + 1) else some 0

/-- The length of a line end behind a backslash, with the blanks after it. -/
def lineEndLength : List Char → Option Nat
  | '\n' :: rest => (continuationLength rest).map (· + 1)
  | '\r' :: '\n' :: rest => (continuationLength rest).map (· + 2)
  | _ => none

/-- The value of at most six hexadecimal digits up to a closing brace, and the number of characters
read; `seen` digits with the value `value` have been read before. -/
def codeDigits (value seen : Nat) : List Char → Option (Nat × Nat)
  | [] => none
  | c :: rest =>
    if c = '\x7d' then
      if seen > 0 then some (value, 1) else none
    else if c = '_' then
      if seen > 0 then (codeDigits value seen rest).map fun (v, n) ↦ (v, n + 1) else none
    else
      match Text.hexValue? c with
      | some digit =>
        if seen < 6 then
          (codeDigits (value * 16 + digit) (seen + 1) rest).map fun (v, n) ↦ (v, n + 1)
        else
          none
      | none => none

/-- Read the braces of a Unicode escape: the code point and the number of characters. -/
def codeEscape? : List Char → Option (Nat × Nat)
  | '\x7b' :: rest =>
    match codeDigits 0 0 rest with
    | some (value, used) => if value.isValidChar then some (value, used + 1) else none
    | none => none
  | _ => none

/-- The letters of the escapes that stand for one character. -/
def isShortEscape (c : Char) : Bool :=
  c ∈ ['n', 'r', 't', '\\', '\'', '"', '0']

/-- The length of an escape in a character literal, after its backslash. -/
def charEscape : List Char → Option Nat
  | 'x' :: a :: b :: _ => if '0' ≤ a ∧ a ≤ '7' ∧ Text.isHexDigit b then some 3 else none
  | 'u' :: rest => (codeEscape? rest).map fun (_, used) ↦ used + 1
  | c :: _ => if isShortEscape c then some 1 else none
  | [] => none

/-- The length of an escape in a string literal, after its backslash. -/
def stringEscape (text : List Char) : Option Nat :=
  (charEscape text).or (lineEndLength text)

/-- The length of an escape in a byte literal, after its backslash. -/
def byteEscape : List Char → Option Nat
  | 'x' :: a :: b :: _ => if Text.isHexDigit a ∧ Text.isHexDigit b then some 3 else none
  | c :: _ => if isShortEscape c then some 1 else none
  | [] => none

/-- The length of an escape in a byte string literal, after its backslash. -/
def byteStringEscape (text : List Char) : Option Nat :=
  (byteEscape text).or (lineEndLength text)

/-- The length of an escape in a C string literal, after its backslash. No escape may stand for the
character that ends such a string. -/
def cStringEscape (text : List Char) : Option Nat :=
  match text with
  | '0' :: _ => none
  | 'x' :: '0' :: '0' :: _ => none
  | 'x' :: a :: b :: _ => if Text.isHexDigit a ∧ Text.isHexDigit b then some 3 else none
  | 'u' :: rest =>
    match codeEscape? rest with
    | some (value, used) => if value = 0 then none else some (used + 1)
    | none => none
  | _ => stringEscape text

/-! ## Strings -/

/-- The characters after the closing quote of a string, after passing over `skipped` of them.
`escape` is the length of an escape and `plain` tells which characters may stand for themselves. -/
def afterString (escape : List Char → Option Nat) (plain : Char → Bool) :
    Nat → List Char → Option (List Char)
  | _, [] => none
  | skipped + 1, _ :: rest => afterString escape plain skipped rest
  | 0, c :: rest =>
    if c = '"' then
      some rest
    else if c = '\\' then
      match escape rest with
      | some used => afterString escape plain used rest
      | none => none
    else if c = '\r' then
      if nextIs (· = '\n') rest then afterString escape plain 1 rest else none
    else if plain c then
      afterString escape plain 0 rest
    else
      none

/-- The characters after the closing quote and the `hashes` marks of a raw string. -/
def afterRaw (hashes : Nat) (plain : Char → Bool) : List Char → Option (List Char)
  | [] => none
  | c :: rest =>
    if c = '"' ∧ (rest.take hashes) = List.replicate hashes '#' then
      some (rest.drop hashes)
    else if c = '\r' ∧ ¬ nextIs (· = '\n') rest then
      none
    else if plain c then
      afterRaw hashes plain rest
    else
      none

/-- Read a raw string after the letters in front of it. -/
def rawString? (plain : Char → Bool) (text : List Char) : Option (List Char) :=
  let hashes := (text.takeWhile (· = '#')).length
  match text.drop hashes with
  | '"' :: rest => if hashes ≤ 255 then afterRaw hashes plain rest else none
  | _ => none

/-- Any character. -/
def anyChar (_ : Char) : Bool :=
  true

/-- An ASCII character. -/
def isAscii (c : Char) : Bool :=
  c.toNat < 0x80

/-- A character that does not end a C string. -/
def isNotNul (c : Char) : Bool :=
  c ≠ '\x00'

/-- Read a string literal of any kind. -/
def stringLiteral? (text : List Char) : Option (List Char) :=
  match text with
  | '"' :: rest => afterString stringEscape anyChar 0 rest
  | 'r' :: rest => rawString? anyChar rest
  | 'b' :: '"' :: rest => afterString byteStringEscape isAscii 0 rest
  | 'b' :: 'r' :: rest => rawString? isAscii rest
  | 'c' :: '"' :: rest => afterString cStringEscape isNotNul 0 rest
  | 'c' :: 'r' :: rest => rawString? isNotNul rest
  | _ => none

/-- Read the rest of a character literal after its opening quote. -/
def afterCharQuote (escape : List Char → Option Nat) (plain : Char → Bool) (text : List Char) :
    Option (List Char) :=
  let rest? :=
    match text with
    | '\\' :: rest => (escape rest).map rest.drop
    | c :: rest => if plain c then some rest else none
    | [] => none
  match rest? with
  | some ('\'' :: rest) => some rest
  | _ => none

/-- Read a character literal or a byte literal. -/
def charLiteral? (text : List Char) : Option (List Char) :=
  match text with
  | 'b' :: '\'' :: rest => afterCharQuote byteEscape isAscii rest
  | '\'' :: rest => afterCharQuote charEscape anyChar rest
  | _ => none

/-! ## Numbers -/

/-- A digit or a separator of digits. -/
def isDigitOrGap (c : Char) : Bool :=
  c.isDigit || c = '_'

/-- The characters after the digits of an exponent, its letter and sign passed over. -/
def afterExponent? (text : List Char) : Option (List Char) :=
  let gap := text.dropWhile (· = '_')
  let unsigned :=
    match gap with
    | '+' :: rest => rest
    | '-' :: rest => rest
    | _ => gap
  if (unsigned.takeWhile isDigitOrGap).any Char.isDigit then some (unsigned.dropWhile isDigitOrGap)
  else none

/-- The characters after a number with a point or an exponent, its suffix apart. A point is no part
of the number when an identifier or another point follows. -/
def afterFloat? (text : List Char) : Option (List Char) :=
  if nextIs Char.isDigit text then
    match text.dropWhile isDigitOrGap with
    | '.' :: rest =>
      if nextIs (fun c ↦ c = '.' || isNameStart c) rest then none
      else
        let rest := rest.dropWhile isDigitOrGap
        match rest with
        | c :: more =>
          if c = 'e' ∨ c = 'E' then some ((afterExponent? more).getD rest) else some rest
        | [] => some rest
    | c :: more => if c = 'e' ∨ c = 'E' then afterExponent? more else none
    | [] => none
  else
    none

/-- The characters after the digits of a whole number in a base; `seen` tells whether a digit was
read before. -/
def afterDigits (base : Nat) (seen : Bool) : List Char → Option (List Char)
  | [] => if seen then some [] else none
  | c :: rest =>
    if (Text.hexValue? c).any (· < base) then
      afterDigits base true rest
    else if c.isDigit then
      none
    else if c = '_' ∧ (seen ∨ base ≠ 10) then
      afterDigits base seen rest
    else if c = '_' then
      none
    else if seen then
      some (c :: rest)
    else
      none

/-- The characters after a whole number, its suffix apart. -/
def afterInteger? (text : List Char) : Option (List Char) :=
  match text with
  | '0' :: 'x' :: rest => afterDigits 16 false rest
  | '0' :: 'o' :: rest => afterDigits 8 false rest
  | '0' :: 'b' :: rest => afterDigits 2 false rest
  | _ => afterDigits 10 false text

/-- The characters after a number and its suffix, where an identifier must not go on. -/
def afterNumberSuffix (text : List Char) : Option (List Char) :=
  let rest := dropSuffix text
  if nextIs isNameContinue rest then none else some rest

/-- Read a number. -/
def numberLiteral? (text : List Char) : Option (List Char) :=
  ((afterFloat? text).bind afterNumberSuffix).or ((afterInteger? text).bind afterNumberSuffix)

/-- Read a literal with its suffix, and answer the characters after it. -/
def afterLiteral? (text : List Char) : Option (List Char) :=
  (((stringLiteral? text).or (charLiteral? text)).map dropSuffix).or (numberLiteral? text)

/-! ## Blanks and comments -/

/-- The character separates tokens. -/
def isSeparator (c : Char) : Bool :=
  Text.isBlank c || c = '\u200e' || c = '\u200f'

/-- The characters after a comment between marks that may be nested; `depth` comments are open. -/
def afterBlockComment (depth : Nat) : List Char → Option (List Char)
  | [] => none
  | '/' :: '*' :: rest => afterBlockComment (depth + 1) rest
  | '*' :: '/' :: rest => if depth ≤ 1 then some rest else afterBlockComment (depth - 1) rest
  | _ :: rest => afterBlockComment depth rest

/-- The characters of a line, and those after it from its line feed on. -/
def splitLine : List Char → List Char × List Char
  | [] => ([], [])
  | '\n' :: rest => ([], '\n' :: rest)
  | '\r' :: '\n' :: rest => ([], '\n' :: rest)
  | c :: rest =>
    let (line, rest) := splitLine rest
    (c :: line, rest)

/-- The characters after a blank or a comment that is no documentation. -/
def afterBlank? (text : List Char) : Option (List Char) :=
  match text with
  | '/' :: '/' :: rest =>
    if (nextIs (· = '/') rest && !nextIs (· = '/') (rest.drop 1)) || nextIs (· = '!') rest then none
    else some (splitLine rest).2
  | '/' :: '*' :: '*' :: '/' :: rest => some rest
  | '/' :: '*' :: rest =>
    if (nextIs (· = '*') rest && !nextIs (· = '*') (rest.drop 1)) || nextIs (· = '!') rest then none
    else afterBlockComment 1 rest
  | c :: rest => if isSeparator c then some rest else none
  | [] => none

/-- Some carriage return is not followed by a line feed. -/
def hasBareReturn : List Char → Bool
  | [] => false
  | '\r' :: rest => !nextIs (· = '\n') rest || hasBareReturn rest
  | _ :: rest => hasBareReturn rest

/-- Read a documentation comment: whether it documents what encloses it, its text, and the
characters after it. -/
def docComment? (text : List Char) : Option (Bool × List Char × List Char) :=
  let block (inner : Bool) : Option (Bool × List Char × List Char) :=
    match afterBlockComment 1 (text.drop 2) with
    | some rest =>
      let whole := text.take (text.length - rest.length)
      some (inner, (whole.drop 3).take (whole.length - 5), rest)
    | none => none
  let found :=
    match text with
    | '/' :: '/' :: '!' :: rest => some (true, splitLine rest)
    | '/' :: '*' :: '!' :: _ => block true
    | '/' :: '/' :: '/' :: rest =>
      if nextIs (· = '/') rest then none else some (false, splitLine rest)
    | '/' :: '*' :: '*' :: rest => if nextIs (· = '*') rest then none else block false
    | _ => none
  match found with
  | some (inner, comment, rest) =>
    if hasBareReturn comment then none else some (inner, comment, rest)
  | none => none

/-- The way the characters of a text are written in a string literal. A null in front of an octal
digit is written in full. -/
def literalChars : List Char → List Char
  | [] => []
  | c :: rest =>
    (if c = '\x00' ∧ nextIs (fun d ↦ '0' ≤ d && d ≤ '7') rest then ['\\', 'x', '0', '0']
      else Text.escapeChar c) ++ literalChars rest

/-- The string literal of a text. -/
def stringToken (text : String) : Token :=
  .literal ("\"" ++ String.ofList (literalChars text.toList) ++ "\"")

/-- The attribute that a documentation comment stands for. -/
def docTokens (inner : Bool) (comment : List Char) : List Token :=
  let content := [.ident "doc", .punct '=' false, stringToken (String.ofList comment)]
  .punct '#' false :: ((if inner then [.punct '!' false] else []) ++ [.group .bracket content])

/-! ## Punctuation and the whole text -/

/-- The characters that are punctuation. -/
def punctuation : List Char :=
  "~!@#$%^&*-=+|;:,<.>/?'".toList

/-- Read a punctuation character; a slash that begins a comment is none. -/
def punctChar? (text : List Char) : Option (Char × List Char) :=
  match text with
  | '/' :: '/' :: _ => none
  | '/' :: '*' :: _ => none
  | c :: rest => if c ∈ punctuation then some (c, rest) else none
  | [] => none

/-- Read a punctuation token. A quote has to begin a lifetime. -/
def punct? (text : List Char) : Option (Token × List Char) :=
  match punctChar? text with
  | some ('\'', rest) =>
    match anyName? rest with
    | some (_, after) =>
      let raw := "r#".toList.isPrefixOf rest
      if nextIs (· = '\'') after || (nextIs (· = '#') after && !raw) then none
      else some (.punct '\'' true, rest)
    | none => none
  | some (c, rest) => some (.punct c (punctChar? rest).isSome, rest)
  | none => none

/-- The beginnings of literals with a letter in front, which are no identifiers. -/
def literalStarts : List String :=
  ["r\"", "r#\"", "r##", "b\"", "b'", "br\"", "br#", "c\"", "cr\"", "cr#"]

/-- Read a token that encloses no others. -/
def leaf? (text : List Char) : Option (Token × List Char) :=
  match afterLiteral? text with
  | some rest => some (.literal (String.ofList (text.take (text.length - rest.length))), rest)
  | none =>
    match punct? text with
    | some found => some found
    | none =>
      if literalStarts.any fun start ↦ start.toList.isPrefixOf text then none
      else (anyName? text).map fun (name, rest) ↦ (.ident name, rest)

/-- The groups that are open, the innermost first, each with the tokens before it in reverse. -/
abbrev OpenGroups := List (Delimiter × List Token)

/-- Read tokens up to the end of the text, in at most `fuel` steps. `before` holds the tokens of the
innermost open group in reverse. -/
def tokenizeFrom : Nat → OpenGroups → List Token → List Char → Option (List Token)
  | 0, _, _, _ => none
  | fuel + 1, openGroups, before, text =>
    match text with
    | [] => if openGroups.isEmpty then some before.reverse else none
    | c :: rest =>
      match afterBlank? text with
      | some rest => tokenizeFrom fuel openGroups before rest
      | none =>
        match docComment? text with
        | some (inner, comment, rest) =>
          tokenizeFrom fuel openGroups ((docTokens inner comment).reverse ++ before) rest
        | none =>
          match Delimiter.ofOpening? c, Delimiter.ofClosing? c with
          | some delimiter, _ => tokenizeFrom fuel ((delimiter, before) :: openGroups) [] rest
          | none, some delimiter =>
            match openGroups with
            | (opened, outer) :: openGroups =>
              if opened = delimiter then
                tokenizeFrom fuel openGroups (.group delimiter before.reverse :: outer) rest
              else
                none
            | [] => none
          | none, none =>
            match leaf? text with
            | some (token, rest) => tokenizeFrom fuel openGroups (token :: before) rest
            | none => none

/-- The tokens of a source text, if it is one. A byte order mark in front is passed over. -/
def tokenize? (source : String) : Option (List Token) :=
  let text :=
    match source.toList with
    | '\ufeff' :: rest => rest
    | text => text
  tokenizeFrom (text.length + 1) [] [] text

end EndpointGuard.Source
