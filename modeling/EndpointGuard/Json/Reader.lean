import EndpointGuard.Json.Lexeme

/-!
# Reading JSON texts

`Json.read` reads a whole text as one value. Values may be nested up to a limit. An object keeps its
members as they stand, and `Json.member` looks one up, the last of a name counting.
-/

namespace EndpointGuard.Json

/-- Read the items of an array, at most `fuel` of them; `first` tells whether none was read yet. -/
def readItems (item : List Char → Except Fault (Json × List Char)) :
    Nat → Bool → List Char → Except Fault (List Json × List Char)
  | 0, _, _ => .error .ended
  | fuel + 1, first, text =>
    match skipBlanks text with
    | [] => .error .ended
    | ']' :: rest => .ok ([], rest)
    | c :: rest => do
      let rest ←
        if first then pure (c :: rest)
        else if c = ',' then
          match skipBlanks rest with
          | [] => .error .ended
          | ']' :: _ => .error .malformed
          | rest => pure rest
        else .error .malformed
      let (value, rest) ← item rest
      let (values, rest) ← readItems item fuel false rest
      pure (value :: values, rest)

/-- Read the colon between the name and the value of a member. -/
def readColon (text : List Char) : Except Fault (List Char) :=
  match skipBlanks text with
  | [] => .error .ended
  | ':' :: rest => .ok rest
  | _ => .error .malformed

/-- Read up to the opening quote of the next member's name; `none` means that the object is
closed. -/
def readNextName (first : Bool) (text : List Char) :
    Except Fault (Option (List Char) × List Char) :=
  match skipBlanks text with
  | [] => .error .ended
  | '\x7d' :: rest => .ok (none, rest)
  | c :: rest => do
    let rest ←
      if first then pure (c :: rest)
      else if c = ',' then
        match skipBlanks rest with
        | [] => .error .ended
        | rest => pure rest
      else .error .malformed
    match rest with
    | '"' :: rest => pure (some rest, [])
    | _ => .error .malformed

/-- Read the members of an object, at most `fuel` of them. -/
def readMembers (item : List Char → Except Fault (Json × List Char)) :
    Nat → Bool → List Char → Except Fault ((List (String × Json)) × List Char)
  | 0, _, _ => .error .ended
  | fuel + 1, first, text => do
    match ← readNextName first text with
    | (none, rest) => pure ([], rest)
    | (some rest, _) =>
      let (name, rest) ← readString rest
      let rest ← readColon rest
      let (value, rest) ← item rest
      let (members, rest) ← readMembers item fuel false rest
      pure ((name, value) :: members, rest)

/-- Read a value with at most `depth` values around one another. -/
def readValue : Nat → List Char → Except Fault (Json × List Char)
  | depth, text =>
    match skipBlanks text with
    | [] => .error .ended
    | 'n' :: rest => (readWord "ull".toList rest).map fun rest ↦ (.null, rest)
    | 't' :: rest => (readWord "rue".toList rest).map fun rest ↦ (.bool true, rest)
    | 'f' :: rest => (readWord "alse".toList rest).map fun rest ↦ (.bool false, rest)
    | '"' :: rest => (readString rest).map fun (text, rest) ↦ (.string text, rest)
    | '[' :: rest =>
      match depth with
      | 0 => .error .malformed
      | depth + 1 =>
        (readItems (readValue depth) (rest.length + 1) true rest).map fun (items, rest) ↦
          (.array items, rest)
    | '\x7b' :: rest =>
      match depth with
      | 0 => .error .malformed
      | depth + 1 =>
        (readMembers (readValue depth) (rest.length + 1) true rest).map fun (members, rest) ↦
          (.object members, rest)
    | c :: rest => if c = '-' ∨ c.isDigit then readNumber (c :: rest) else .error .malformed

/-- How deep values may be nested. -/
def nestingLimit : Nat :=
  127

/-- Read a whole text as one value, blanks around it apart. -/
def read (text : String) : Except Fault Json := do
  let (value, rest) ← readValue nestingLimit text.toList
  if skipBlanks rest = [] then pure value else .error .malformed

/-- The value of a member of an object; of two members with one name the later counts. -/
def member (value : Json) (name : String) : Json :=
  match value with
  | .object members => ((members.reverse.find? (·.1 = name)).map Prod.snd).getD .null
  | _ => .null

end EndpointGuard.Json
