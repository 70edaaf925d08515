import EndpointGuard.Text.CodeRange

/-!
# Blanks

The characters with the Unicode property White_Space, and the text between the leading and the
trailing ones. `trim` removes blanks at both ends and keeps those in between.
-/

namespace EndpointGuard.Text

/-- The code points with the property White_Space. -/
def blanks : List CodeRange := [
  ⟨0x9, 0xd⟩, ⟨0x20, 0x20⟩, ⟨0x85, 0x85⟩, ⟨0xa0, 0xa0⟩, ⟨0x1680, 0x1680⟩, ⟨0x2000, 0x200a⟩,
  ⟨0x2028, 0x2029⟩, ⟨0x202f, 0x202f⟩, ⟨0x205f, 0x205f⟩, ⟨0x3000, 0x3000⟩]

/-- The character is white space. -/
def isBlank (c : Char) : Bool :=
  contains blanks c

/-- Drop the characters at the end of a list that satisfy `p`. -/
def dropEnd (p : Char → Bool) (text : List Char) : List Char :=
  (text.reverse.dropWhile p).reverse

/-- Drop the blanks at both ends of a character list. -/
def trimChars (text : List Char) : List Char :=
  dropEnd isBlank (text.dropWhile isBlank)

/-- The text without the blanks at its two ends. -/
def trim (text : String) : String :=
  String.ofList (trimChars text.toList)

end EndpointGuard.Text
