/-!
# JSON values

Values and their compact text. `render` writes an object's members in the order given, escapes in
strings only the quote, the backslash and the control characters below the space, and puts no blank
anywhere.
-/

namespace EndpointGuard

/-- A JSON value. A numeral that is a plain digit string is a `whole` number; any other numeral is
kept as it was written. -/
inductive Json where
  | null
  | bool (value : Bool)
  | whole (value : Nat)
  | numeral (text : String)
  | string (text : String)
  | array (items : List Json)
  | object (members : List (String × Json))

namespace Json

/-- The way a character is written inside a string. -/
def escapeChar (c : Char) : List Char :=
  match c with
  | '"' => ['\\', '"']
  | '\\' => ['\\', '\\']
  | '\x08' => ['\\', 'b']
  | '\t' => ['\\', 't']
  | '\n' => ['\\', 'n']
  | '\x0c' => ['\\', 'f']
  | '\r' => ['\\', 'r']
  | c =>
    if c.toNat < 0x20 then
      ['\\', 'u', '0', '0', (c.toNat / 16).digitChar, (c.toNat % 16).digitChar]
    else
      [c]

/-- The characters of a string between its quotes, quotes included. -/
def renderString (text : String) : List Char :=
  '"' :: (text.toList.flatMap escapeChar ++ ['"'])

mutual

/-- The compact text of a value, as characters. -/
def renderChars : Json → List Char
  | .null => "null".toList
  | .bool true => "true".toList
  | .bool false => "false".toList
  | .whole n => Nat.toDigits 10 n
  | .numeral text => text.toList
  | .string text => renderString text
  | .array items => '[' :: (renderItems items ++ [']'])
  | .object members => '\x7b' :: (renderMembers members ++ ['\x7d'])

/-- The items of an array, separated by commas. -/
def renderItems : List Json → List Char
  | [] => []
  | [item] => renderChars item
  | item :: rest => renderChars item ++ ',' :: renderItems rest

/-- The members of an object, separated by commas. -/
def renderMembers : List (String × Json) → List Char
  | [] => []
  | [(key, value)] => renderString key ++ ':' :: renderChars value
  | (key, value) :: rest =>
    renderString key ++ ':' :: (renderChars value ++ ',' :: renderMembers rest)

end

/-- The compact text of a value. -/
def render (value : Json) : String :=
  String.ofList value.renderChars

/-- A string where there is a text, null where there is none. -/
def ofText? : Option String → Json
  | some text => .string text
  | none => .null

end Json

end EndpointGuard
