import EndpointGuard.Text.Digit
import EndpointGuard.Text.EscapeTable

/-!
# Quoted text

A text in double quotes that shows every character by a printable one. `quote` writes one text and
`quoteList` a bracketed list of them.
-/

namespace EndpointGuard.Text

/-- The way a character is written between double quotes. Short escapes stand for the quote, the
backslash and the common controls, a hexadecimal escape for what cannot be shown, and every other
character for itself. -/
def escapeChar (c : Char) : List Char :=
  match c with
  | '\x00' => ['\\', '0']
  | '\t' => ['\\', 't']
  | '\n' => ['\\', 'n']
  | '\r' => ['\\', 'r']
  | '"' => ['\\', '"']
  | '\\' => ['\\', '\\']
  | c =>
    if contains unprintable c then
      '\\' :: 'u' :: '\x7b' :: (hexDigits c.toNat ++ ['\x7d'])
    else
      [c]

/-- The text in double quotes. -/
def quote (text : String) : String :=
  "\"" ++ String.ofList (text.toList.flatMap escapeChar) ++ "\""

/-- The texts in double quotes, separated by commas, in brackets. -/
def quoteList (texts : List String) : String :=
  "[" ++ ", ".intercalate (texts.map quote) ++ "]"

end EndpointGuard.Text
