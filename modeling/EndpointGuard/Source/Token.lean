/-!
# Token trees

Rust source text as a list of token trees: identifiers, single punctuation characters, literals as
they were written, and groups between delimiters. `render` writes tokens one space apart, except
behind a punctuation character that is joined to the next token. Source text has no groups without
delimiters, which only the expansion of another macro puts around its arguments: they are left out.
-/

namespace EndpointGuard.Source

/-- The kinds of delimiters that can be written. -/
inductive Delimiter where
  | paren
  | bracket
  | brace
deriving DecidableEq

/-- A token tree. A `joint` punctuation character belongs together with the character after it. Raw
identifiers keep their mark. -/
inductive Token where
  | ident (name : String)
  | punct (char : Char) (joint : Bool)
  | literal (text : String)
  | group (delimiter : Delimiter) (body : List Token)

namespace Delimiter

/-- The character that opens a group. -/
def opening : Delimiter → Char
  | .paren => '('
  | .bracket => '['
  | .brace => '\x7b'

/-- The character that closes a group. -/
def closing : Delimiter → Char
  | .paren => ')'
  | .bracket => ']'
  | .brace => '\x7d'

/-- The delimiter that a character opens. -/
def ofOpening? : Char → Option Delimiter
  | '(' => some .paren
  | '[' => some .bracket
  | '\x7b' => some .brace
  | _ => none

/-- The delimiter that a character closes. -/
def ofClosing? : Char → Option Delimiter
  | ')' => some .paren
  | ']' => some .bracket
  | '\x7d' => some .brace
  | _ => none

end Delimiter

namespace Token

/-- The token is joined to the one after it. -/
def isJoint : Token → Bool
  | .punct _ joint => joint
  | _ => false

/-- The punctuation characters of a symbol, all but the last joined to the next. -/
def symbolChars : List Char → List Token
  | [] => []
  | [c] => [.punct c false]
  | c :: rest => .punct c true :: symbolChars rest

/-- The tokens of a symbol. -/
def symbol (text : String) : List Token :=
  symbolChars text.toList

/-- The tokens of the label of a lifetime or loop. -/
def lifetime (name : String) : List Token :=
  [.punct '\'' true, .ident name]

mutual

/-- The characters of a token. Braces stand apart from what they enclose. -/
def renderChars : Token → List Char
  | .ident name => name.toList
  | .punct c _ => [c]
  | .literal text => text.toList
  | .group delimiter body =>
    match delimiter with
    | .brace =>
      '\x7b' :: ' ' :: (renderList body ++ (if body.isEmpty then ['\x7d'] else [' ', '\x7d']))
    | delimiter => delimiter.opening :: (renderList body ++ [delimiter.closing])

/-- The characters of a list of tokens. -/
def renderList : List Token → List Char
  | [] => []
  | [token] => renderChars token
  | token :: rest =>
    renderChars token ++ ((if token.isJoint then [] else [' ']) ++ renderList rest)

end

/-- The text of a list of tokens. -/
def render (tokens : List Token) : String :=
  String.ofList (renderList tokens)

mutual

/-- The number of tokens in a token, itself and all that it encloses. -/
def count : Token → Nat
  | .group _ body => countList body + 1
  | _ => 1

/-- The number of tokens in a list, enclosed ones included. -/
def countList : List Token → Nat
  | [] => 0
  | token :: rest => count token + countList rest

end

end Token

end EndpointGuard.Source
