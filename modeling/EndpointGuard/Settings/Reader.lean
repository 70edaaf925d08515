import EndpointGuard.Json.Reader
import EndpointGuard.Settings

/-!
# Settings from JSON text

Settings are written as an object with members `dev_mode`, `prefix` and `role_prefix`, or as an
array of these values in this order. What is missing takes the standard value, unknown members are
passed over, and values are taken as they are. `Settings.ofJson` answers the first fault of the
text.
-/

namespace EndpointGuard.Settings

open EndpointGuard.Json (Fault skipBlanks readWord readString skipString readNumber
  readNumeral readColon readNextName)

/-- The fault of a value that is not of the type asked for. A word, a string or a number has to be
well formed to be called mistyped. -/
def mistypedFault (text : List Char) : Fault :=
  let judge {α : Type} (reading : Except Fault α) : Fault :=
    match reading with
    | .ok _ => .mistyped
    | .error fault => fault
  match text with
  | [] => .ended
  | 'n' :: rest => judge (readWord "ull".toList rest)
  | 't' :: rest => judge (readWord "rue".toList rest)
  | 'f' :: rest => judge (readWord "alse".toList rest)
  | '"' :: rest => judge (readString rest)
  | '[' :: _ => .mistyped
  | '\x7b' :: _ => .mistyped
  | c :: rest => if c = '-' ∨ c.isDigit then judge (readNumber (c :: rest)) else .malformed

/-- Read a truth value. -/
def readBool (text : List Char) : Except Fault (Bool × List Char) :=
  match skipBlanks text with
  | 't' :: rest => (readWord "rue".toList rest).map fun rest ↦ (true, rest)
  | 'f' :: rest => (readWord "alse".toList rest).map fun rest ↦ (false, rest)
  | text => .error (mistypedFault text)

/-- Read a text. -/
def readText (text : List Char) : Except Fault (String × List Char) :=
  match skipBlanks text with
  | '"' :: rest => readString rest
  | text => .error (mistypedFault text)

/-- Read a text or null. -/
def readText? (text : List Char) : Except Fault ((Option String) × List Char) :=
  match skipBlanks text with
  | 'n' :: rest => (readWord "ull".toList rest).map fun rest ↦ (none, rest)
  | text => (readText text).map fun (found, rest) ↦ (some found, rest)

/-- The brackets of a value that is being passed over. -/
inductive Bracket where
  | array
  | object
deriving DecidableEq

/-- Read the name and the colon of a member that is passed over. -/
def skipName (text : List Char) : Except Fault (List Char) :=
  match skipBlanks text with
  | [] => .error .ended
  | '"' :: rest => do
    let rest ← skipString rest
    readColon rest
  | _ => .error .malformed

/-- Where passing over a value goes on. `value` awaits a value, `next` stands after a value, and
`opened` stands after an opening bracket. -/
inductive SkipPoint where
  | value
  | next
  | opened
deriving DecidableEq

/-- Pass over a value, inside the brackets `open`, the innermost first, in at most `fuel` steps. -/
def skipFrom : Nat → SkipPoint → List Bracket → List Char → Except Fault (List Char)
  | 0, _, _, _ => .error .ended
  | fuel + 1, .value, brackets, text =>
    match skipBlanks text with
    | [] => .error .ended
    | 'n' :: rest => do skipFrom fuel .next brackets (← readWord "ull".toList rest)
    | 't' :: rest => do skipFrom fuel .next brackets (← readWord "rue".toList rest)
    | 'f' :: rest => do skipFrom fuel .next brackets (← readWord "alse".toList rest)
    | '"' :: rest => do skipFrom fuel .next brackets (← skipString rest)
    | '[' :: rest => skipFrom fuel .opened (.array :: brackets) rest
    | '\x7b' :: rest => skipFrom fuel .opened (.object :: brackets) rest
    | c :: rest =>
      if c = '-' ∨ c.isDigit then do
        let (_, rest) ← readNumeral (c :: rest)
        skipFrom fuel .next brackets rest
      else
        .error .malformed
  | _ + 1, _, [], text => .ok text
  | fuel + 1, point, bracket :: brackets, text =>
    match skipBlanks text with
    | [] => .error .ended
    | c :: rest =>
      if c = ',' ∧ point = .next then
        match bracket with
        | .array => skipFrom fuel .value (bracket :: brackets) rest
        | .object => do skipFrom fuel .value (bracket :: brackets) (← skipName rest)
      else if c = ']' ∧ bracket = .array ∨ c = '\x7d' ∧ bracket = .object then
        skipFrom fuel .next brackets rest
      else if point = .next then
        .error .malformed
      else
        match bracket with
        | .array => skipFrom fuel .value (bracket :: brackets) (c :: rest)
        | .object => do skipFrom fuel .value (bracket :: brackets) (← skipName (c :: rest))

/-- Pass over a value of any type. -/
def skipValue (text : List Char) : Except Fault (List Char) :=
  skipFrom (2 * text.length + 2) .value [] text

/-- The members of settings that have been read. -/
structure Found where
  devMode : Option Bool := none
  pathPrefix : Option String := none
  rolePrefix : Option (Option String) := none

/-- The settings with standard values in place of what was not found. -/
def Found.settings (found : Found) : Settings where
  devMode := found.devMode.getD standard.devMode
  pathPrefix := found.pathPrefix.getD standard.pathPrefix
  rolePrefix := found.rolePrefix.getD standard.rolePrefix

/-- Read the member `name`, which must not have been read before; `text` begins after the name. -/
def readMember (found : Found) (name : String) (text : List Char) :
    Except Fault (Found × List Char) :=
  if name = "dev_mode" then
    if found.devMode.isSome then .error .mistyped
    else do
      let (value, rest) ← readBool (← readColon text)
      pure ({ found with devMode := some value }, rest)
  else if name = "prefix" then
    if found.pathPrefix.isSome then .error .mistyped
    else do
      let (value, rest) ← readText (← readColon text)
      pure ({ found with pathPrefix := some value }, rest)
  else if name = "role_prefix" then
    if found.rolePrefix.isSome then .error .mistyped
    else do
      let (value, rest) ← readText? (← readColon text)
      pure ({ found with rolePrefix := some value }, rest)
  else do
    let rest ← skipValue (← readColon text)
    pure (found, rest)

/-- Read the members of an object, at most `fuel` of them. -/
def readMembers : Nat → Bool → Found → List Char → Except Fault (Found × List Char)
  | 0, _, _, _ => .error .ended
  | fuel + 1, first, found, text => do
    match ← readNextName first text with
    | (none, rest) => pure (found, rest)
    | (some rest, _) =>
      let (name, rest) ← readString rest
      let (found, rest) ← readMember found name rest
      readMembers fuel false found rest

/-- Read up to the next item of an array; `none` means that the array is closed. -/
def readNextItem (first : Bool) (text : List Char) :
    Except Fault (Option (List Char) × List Char) :=
  match skipBlanks text with
  | [] => .error .ended
  | ']' :: rest => .ok (none, rest)
  | c :: rest =>
    if first then .ok (some (c :: rest), [])
    else if c = ',' then
      match skipBlanks rest with
      | [] => .error .ended
      | ']' :: _ => .error .malformed
      | rest => .ok (some rest, [])
    else .error .malformed

/-- Read the closing bracket behind the last item. -/
def readArrayEnd (text : List Char) : Except Fault (List Char) :=
  match skipBlanks text with
  | [] => .error .ended
  | ']' :: rest => .ok rest
  | _ => .error .malformed

/-- Read the items of an array after its opening bracket. -/
def readArray (text : List Char) : Except Fault (Found × List Char) := do
  match ← readNextItem true text with
  | (none, rest) => pure ({}, rest)
  | (some rest, _) =>
    let (devMode, rest) ← readBool rest
    let found : Found := { devMode := some devMode }
    match ← readNextItem false rest with
    | (none, rest) => pure (found, rest)
    | (some rest, _) =>
      let (pathPrefix, rest) ← readText rest
      let found := { found with pathPrefix := some pathPrefix }
      match ← readNextItem false rest with
      | (none, rest) => pure (found, rest)
      | (some rest, _) =>
        let (rolePrefix, rest) ← readText? rest
        pure ({ found with rolePrefix := some rolePrefix }, ← readArrayEnd rest)

/-- Read settings from a whole text. -/
def ofJson (text : String) : Except Fault Settings := do
  let (found, rest) ←
    match skipBlanks text.toList with
    | '\x7b' :: rest => readMembers (rest.length + 1) true {} rest
    | '[' :: rest => readArray rest
    | text => .error (mistypedFault text)
  if skipBlanks rest = [] then pure found.settings else .error .malformed

end EndpointGuard.Settings
