/-!
# Reading bytes as UTF-8

`decodeUtf8` reads any byte list. A sequence that is not well formed is replaced by the replacement
character, one for each longest beginning of a well-formed sequence.
-/

namespace EndpointGuard.Text

/-- The bytes of a text in UTF-8. -/
def utf8Bytes (text : String) : List UInt8 :=
  text.toList.flatMap String.utf8EncodeChar

/-- The byte continues a sequence. -/
def isContinuation (b : UInt8) : Bool :=
  0x80 ≤ b && b ≤ 0xbf

/-- What the first byte of a longer sequence announces. `following` counts the bytes that follow it,
the first of which lies between `low` and `high`, and `bits` is its share of the code point. -/
structure Lead where
  following : Nat
  low : UInt8
  high : UInt8
  bits : Nat

/-- Read a byte above the ASCII range as the first of a sequence; no sequence begins with the
rest. -/
def lead? (b : UInt8) : Option Lead :=
  if 0xc2 ≤ b && b ≤ 0xdf then some ⟨1, 0x80, 0xbf, b.toNat - 0xc0⟩
  else if b = 0xe0 then some ⟨2, 0xa0, 0xbf, 0⟩
  else if b = 0xed then some ⟨2, 0x80, 0x9f, 0xd⟩
  else if 0xe1 ≤ b && b ≤ 0xef then some ⟨2, 0x80, 0xbf, b.toNat - 0xe0⟩
  else if b = 0xf0 then some ⟨3, 0x90, 0xbf, 0⟩
  else if 0xf1 ≤ b && b ≤ 0xf3 then some ⟨3, 0x80, 0xbf, b.toNat - 0xf0⟩
  else if b = 0xf4 then some ⟨3, 0x80, 0x8f, 4⟩
  else none

/-- The longest admissible run of bytes after a lead, at most `lead.following` of them. -/
def Lead.matching (lead : Lead) (rest : List UInt8) : List UInt8 :=
  match rest.take lead.following with
  | [] => []
  | b :: more =>
    if lead.low ≤ b && b ≤ lead.high then b :: more.takeWhile isContinuation else []

/-- The character that begins at byte `b`, and the number of bytes it takes of those after `b`. -/
def readChar (b : UInt8) (rest : List UInt8) : Char × Nat :=
  if b < 0x80 then
    (Char.ofNat b.toNat, 0)
  else
    match lead? b with
    | none => ('\ufffd', 0)
    | some lead =>
      let found := lead.matching rest
      if found.length = lead.following then
        let code := found.foldl (fun code b ↦ code * 64 + (b.toNat - 0x80)) lead.bits
        (Char.ofNat code, found.length)
      else
        ('\ufffd', found.length)

/-- Read bytes as characters after passing over the first `skipped` of them. -/
def decodeFrom : Nat → List UInt8 → List Char
  | _, [] => []
  | skipped + 1, _ :: rest => decodeFrom skipped rest
  | 0, b :: rest =>
    let (c, used) := readChar b rest
    c :: decodeFrom used rest

/-- The text that the bytes spell in UTF-8, ill-formed parts replaced. -/
def decodeUtf8 (bytes : List UInt8) : String :=
  String.ofList (decodeFrom 0 bytes)

end EndpointGuard.Text
