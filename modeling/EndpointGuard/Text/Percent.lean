import EndpointGuard.Text.Digit
import EndpointGuard.Text.Utf8

/-!
# Percent-encoding

A byte of a path may be written as a percent sign and two hexadecimal digits. `decodePercent`
replaces such a triple by its byte unless the byte is one of those kept encoded, and leaves every
broken triple as it stands.
-/

namespace EndpointGuard.Text

/-- The value of the hexadecimal digit that a byte is. -/
def hexByte? (b : UInt8) : Option UInt8 :=
  (hexValue? (Char.ofUInt8 b)).map UInt8.ofNat

/-- The byte that two hexadecimal digits denote. -/
def hexPair? (high low : UInt8) : Option UInt8 :=
  match hexByte? high, hexByte? low with
  | some h, some l => some (h * 16 + l)
  | _, _ => none

/-- Decode every triple except those whose byte satisfies `kept`. -/
def decodeTriples (kept : UInt8 → Bool) : List UInt8 → List UInt8
  | [] => []
  | b :: rest =>
    match rest with
    | high :: low :: more =>
      match if b = 0x25 then hexPair? high low else none with
      | some byte =>
        if kept byte then b :: decodeTriples kept (high :: low :: more)
        else byte :: decodeTriples kept more
      | none => b :: decodeTriples kept (high :: low :: more)
    | [last] => [b, last]
    | [] => [b]

/-- The bytes that stay encoded in a path: the percent sign, the slash and the plus sign. -/
def keptInPath (b : UInt8) : Bool :=
  b = 0x25 || b = 0x2f || b = 0x2b

/-- Decode the triples of a text and read the bytes as UTF-8. -/
def decodePercent (kept : UInt8 → Bool) (text : String) : String :=
  decodeUtf8 (decodeTriples kept (utf8Bytes text))

end EndpointGuard.Text
