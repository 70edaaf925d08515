/-!
# Digits

The digits of hexadecimal numbers. They are read in either case and written in small letters.
-/

namespace EndpointGuard.Text

/-- The value of a hexadecimal digit in either case. -/
def hexValue? (c : Char) : Option Nat :=
  if '0' ≤ c ∧ c ≤ '9' then some (c.toNat - 48)
  else if 'a' ≤ c ∧ c ≤ 'f' then some (c.toNat - 87)
  else if 'A' ≤ c ∧ c ≤ 'F' then some (c.toNat - 55)
  else none

/-- A hexadecimal digit in either case. -/
def isHexDigit (c : Char) : Bool :=
  (hexValue? c).isSome

/-- The hexadecimal digits of a number in small letters, without leading zeros. -/
def hexDigits (n : Nat) : List Char :=
  Nat.toDigits 16 n

end EndpointGuard.Text
