import EndpointGuard.Source.Lexer

/-!
# Parsers of token trees

A parser reads from the front of a token list and answers what it read. Most parsers answer the
tokens in the form in which they are written again, where every symbol stands apart from its
neighbours. Tests look ahead without reading.
-/

namespace EndpointGuard.Source

/-- A reader of tokens that may fail. -/
abbrev Parser (α : Type) := StateT (List Token) Option α

/-- A test of the tokens ahead. -/
abbrev Ahead := List Token → Bool

/-- The names that are no identifiers. -/
def keywords : List String :=
  ["_", "abstract", "as", "async", "await", "become", "box", "break", "const", "continue", "crate",
    "do", "dyn", "else", "enum", "extern", "false", "final", "fn", "for", "if", "impl", "in", "let",
    "loop", "macro", "match", "mod", "move", "mut", "override", "priv", "pub", "ref", "return",
    "Self", "self", "static", "struct", "super", "trait", "true", "try", "type", "typeof", "unsafe",
    "unsized", "use", "virtual", "where", "while", "yield"]

/-! ## Tests -/

/-- No token is left. -/
def atEnd : Ahead :=
  List.isEmpty

/-- Take the characters of a symbol from the front of the tokens; all but the last have to be joined
to the next. -/
def dropSymbolChars : List Char → List Token → Option (List Token)
  | [], tokens => some tokens
  | c :: rest, .punct d joint :: tokens =>
    if c = d ∧ (rest.isEmpty ∨ joint) then dropSymbolChars rest tokens else none
  | _ :: _, _ => none

/-- A symbol comes next. More punctuation may be joined to it. -/
def isSymbol (text : String) : Ahead :=
  fun tokens ↦ (dropSymbolChars text.toList tokens).isSome

/-- The word comes next. -/
def isWord (text : String) : Ahead
  | .ident name :: _ => name = text
  | _ => false

/-- One of the words comes next. -/
def isWordOf (texts : List String) : Ahead
  | .ident name :: _ => name ∈ texts
  | _ => false

/-- An identifier or a keyword comes next. -/
def isAnyWord : Ahead
  | .ident _ :: _ => true
  | _ => false

/-- An identifier comes next. -/
def isName : Ahead
  | .ident name :: _ => name ∉ keywords
  | _ => false

/-- A lifetime comes next. -/
def isLifetime : Ahead
  | .punct '\'' true :: .ident _ :: _ => true
  | _ => false

/-- A group between the delimiters comes next. -/
def isGroup (delimiter : Delimiter) : Ahead
  | .group found _ :: _ => found = delimiter
  | _ => false

/-- The text of a literal begins like a number. -/
def isNumberText (text : String) : Bool :=
  nextIs Char.isDigit text.toList

/-- A literal, a truth value or a negative number comes next. -/
def isLiteral : Ahead
  | .literal _ :: _ => true
  | .ident name :: _ => name = "true" || name = "false"
  | .punct '-' _ :: .literal text :: _ => isNumberText text
  | _ => false

/-- The text of a literal is that of a string. -/
def isStringText (text : String) : Bool :=
  nextIs (fun c ↦ c = '"' || c = 'r') text.toList

/-- A string literal comes next. -/
def isStringLiteral : Ahead
  | .literal text :: _ => isStringText text
  | _ => false

/-- The text of a literal is that of a number with a point or an exponent. -/
def isFloatText (text : String) : Bool :=
  let chars := text.toList
  nextIs Char.isDigit chars &&
  match chars.dropWhile isDigitOrGap with
  | '.' :: _ => true
  | c :: rest => (c = 'e' || c = 'E') && (afterExponent? rest).isSome
  | [] => false

/-- The tokens after the first one; a lifetime counts as one token. -/
def dropOne : List Token → List Token
  | .punct '\'' true :: .ident _ :: rest => rest
  | _ :: rest => rest
  | [] => []

/-- A test of the tokens after the first one. -/
def second (test : Ahead) : Ahead :=
  fun tokens ↦ test (dropOne tokens)

/-- A test of the tokens after the first two. -/
def third (test : Ahead) : Ahead :=
  fun tokens ↦ test (dropOne (dropOne tokens))

/-- One of the tests holds. -/
def anyOf (tests : List Ahead) : Ahead :=
  fun tokens ↦ tests.any fun test ↦ test tokens

/-- One symbol comes next and another does not. -/
def isSymbolBut (text excluded : String) : Ahead :=
  fun tokens ↦ isSymbol text tokens && !isSymbol excluded tokens

/-! ## Parsers -/

namespace Parser

/-- Test the tokens ahead. -/
def ahead (test : Ahead) : Parser Bool :=
  fun tokens ↦ some (test tokens, tokens)

/-- Read a symbol. -/
def symbol (text : String) : Parser (List Token) :=
  fun tokens ↦ (dropSymbolChars text.toList tokens).map fun rest ↦ (Token.symbol text, rest)

/-- Read a symbol if it comes next. -/
def symbol? (text : String) : Parser (List Token) := do
  if ← ahead (isSymbol text) then symbol text else pure []

/-- Read a word. -/
def word (text : String) : Parser (List Token)
  | .ident name :: rest => if name = text then some ([.ident name], rest) else none
  | _ => none

/-- Read a word if it comes next. -/
def word? (text : String) : Parser (List Token) := do
  if ← ahead (isWord text) then word text else pure []

/-- Read an identifier or a keyword. -/
def anyWord : Parser String
  | .ident name :: rest => some (name, rest)
  | _ => none

/-- Read an identifier. -/
def name : Parser String
  | .ident name :: rest => if name ∈ keywords then none else some (name, rest)
  | _ => none

/-- Read an identifier as a token. -/
def nameToken : Parser (List Token) := do
  return [.ident (← name)]

/-- Read an identifier or an underscore as a token. -/
def nameOrBlank : Parser (List Token) := do
  if ← ahead (isWord "_") then word "_" else nameToken

/-- Read a lifetime. -/
def lifetime : Parser (List Token)
  | .punct '\'' true :: .ident name :: rest => some (Token.lifetime name, rest)
  | _ => none

/-- Read a lifetime if it comes next. -/
def lifetime? : Parser (List Token) := do
  if ← ahead isLifetime then lifetime else pure []

/-- Read a literal. A sign is drawn into the number behind it. -/
def literal : Parser (List Token)
  | .literal text :: rest => some ([.literal text], rest)
  | .ident name :: rest =>
    if name = "true" ∨ name = "false" then some ([.ident name], rest) else none
  | .punct '-' _ :: .literal text :: rest =>
    if isNumberText text then some ([.literal ("-" ++ text)], rest) else none
  | _ => none

/-- Read a string literal. -/
def stringLiteral : Parser (List Token)
  | .literal text :: rest => if isStringText text then some ([.literal text], rest) else none
  | _ => none

/-- Read with a parser all that a group between the delimiters encloses. -/
def inside {α : Type} (delimiter : Delimiter) (content : Parser α) : Parser α
  | .group found body :: rest =>
    if found = delimiter then
      match content body with
      | some (value, []) => some (value, rest)
      | _ => none
    else
      none
  | _ => none

/-- Read a group with what a parser writes for its content. -/
def group (delimiter : Delimiter) (content : Parser (List Token)) : Parser (List Token) := do
  return [.group delimiter (← inside delimiter content)]

/-- Read any group as it stands. -/
def anyGroup : Parser (List Token)
  | .group delimiter body :: rest => some ([.group delimiter body], rest)
  | _ => none

/-- Try a parser without reading on. -/
def attempt {α : Type} (parser : Parser α) : Parser (Option α) :=
  fun tokens ↦ some ((parser tokens).map Prod.fst, tokens)

/-- Read what a parser reads, and answer the tokens as they stood beside it. -/
def withSource {α : Type} (parser : Parser α) : Parser (α × List Token) :=
  fun tokens ↦
    match parser tokens with
    | some (value, rest) => some ((value, tokens.take (tokens.length - rest.length)), rest)
    | none => none

/-- Read what a parser reads, and answer the tokens as they stood. -/
def verbatim {α : Type} (parser : Parser α) : Parser (List Token) := do
  return (← withSource parser).2

/-- Read when a test holds, else nothing. -/
def when (test : Ahead) (parser : Parser (List Token)) : Parser (List Token) := do
  if ← ahead test then parser else pure []

/-- Read items while a test holds, at most `fuel` of them. -/
def whileFuel (test : Ahead) (item : Parser (List Token)) : Nat → Parser (List Token)
  | 0 => pure []
  | fuel + 1 => do
    if ← ahead test then
      let first ← item
      let more ← whileFuel test item fuel
      return first ++ more
    else
      return []

/-- Read items while a test holds. Every item has to read a token. -/
def many (test : Ahead) (item : Parser (List Token)) : Parser (List Token) :=
  fun tokens ↦ whileFuel test item (tokens.length + 1) tokens

/-- Read items up to a stop or to an item without a separator behind it, at most `fuel` of them. -/
def separatedFuel (stop : Ahead) (separator : String) (item : Parser (List Token)) :
    Nat → Parser (List Token)
  | 0 => failure
  | fuel + 1 => do
    if ← ahead stop then return []
    let first ← item
    if ← ahead (isSymbol separator) then
      let mark ← symbol separator
      let more ← separatedFuel stop separator item fuel
      return first ++ mark ++ more
    else
      return first

/-- Read items up to a stop or to an item without a separator behind it. -/
def separated (stop : Ahead) (separator : String) (item : Parser (List Token)) :
    Parser (List Token) :=
  fun tokens ↦ separatedFuel stop separator item (tokens.length + 1) tokens

/-- Read items with commas between them up to a stop, at most `fuel` of them. A comma may stand
behind the last. Each item comes with the comma behind it, if there is one. -/
def itemsFuel {α : Type} (stop : Ahead) (item : Parser α) : Nat → Parser (List (α × List Token))
  | 0 => failure
  | fuel + 1 => do
    if ← ahead stop then return []
    let first ← item
    if ← ahead stop then return [(first, [])]
    let comma ← symbol ","
    let more ← itemsFuel stop item fuel
    return (first, comma) :: more

/-- Read items with commas between them up to a stop. -/
def items {α : Type} (stop : Ahead) (item : Parser α) : Parser (List (α × List Token)) :=
  fun tokens ↦ itemsFuel stop item (tokens.length + 1) tokens

/-- Read items with commas between them up to a stop, as tokens. -/
def commaSeparated (stop : Ahead) (item : Parser (List Token)) : Parser (List Token) := do
  return (← items stop item).flatMap fun (tokens, comma) ↦ tokens ++ comma

/-- Read all tokens with a parser. -/
def all {α : Type} (parser : Parser α) (tokens : List Token) : Option α :=
  match parser tokens with
  | some (value, []) => some value
  | _ => none

end Parser

end EndpointGuard.Source
