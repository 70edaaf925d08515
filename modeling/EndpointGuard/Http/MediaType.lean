import EndpointGuard.Text.LowerCase

/-!
# Media types

The content type of a body names a type and a subtype, and may go on with parameters. `isJson` tells
whether a body of that type is read as JSON.
-/

namespace EndpointGuard.Http

/-- The character may stand in the name of a type or a parameter. -/
def isTokenChar (c : Char) : Bool :=
  c.isAlphanum ||
    c ∈ ['!', '#', '$', '%', '&', '\'', '*', '+', '-', '.', '^', '_', '\x60', '|', '~']

/-- The character may stand between the quotes of a parameter's value. -/
def isQuotedChar (c : Char) : Bool :=
  0x1f < c.toNat && c.toNat ≠ 0x7f

/-- The characters after a semicolon are a list of parameters, each a name and a value that may
stand in quotes. Spaces may stand before a name and behind a closing quote, and the list may be
empty. -/
def areParameters : Nat → List Char → Bool
  | 0, _ => false
  | _ + 1, [] => true
  | fuel + 1, ' ' :: rest => areParameters fuel rest
  | fuel + 1, text =>
    text.takeWhile isTokenChar ≠ [] &&
    match text.dropWhile isTokenChar with
    | '=' :: '"' :: c :: rest =>
      isQuotedChar c && (rest.takeWhile (· ≠ '"')).all isQuotedChar &&
      match rest.dropWhile (· ≠ '"') with
      | _ :: rest =>
        match rest.dropWhile (· = ' ') with
        | [] => true
        | ';' :: rest => areParameters fuel rest
        | _ => false
      | [] => false
    | '=' :: rest =>
      match rest.dropWhile isTokenChar with
      | [] => true
      | ';' :: more => rest.takeWhile isTokenChar ≠ [] && areParameters fuel more
      | _ => false
    | _ => false

/-- Split a subtype at its last plus sign, unless that comes first. -/
def splitSuffix (subtype : List Char) : List Char × List Char :=
  let suffix := (subtype.reverse.takeWhile (· ≠ '+')).reverse
  let main := subtype.take (subtype.length - suffix.length - 1)
  if main = [] then (subtype, []) else (main, suffix)

/-- The content type is one of JSON: by its subtype or by the suffix of its subtype. -/
def isJson (contentType : String) : Bool :=
  let text := contentType.toList.map Text.lowerAscii
  match text.dropWhile isTokenChar with
  | '/' :: rest =>
    let (main, suffix) := splitSuffix (rest.takeWhile isTokenChar)
    text.takeWhile isTokenChar ≠ [] && (main = "json".toList || suffix = "json".toList) &&
    match rest.dropWhile isTokenChar with
    | [] => true
    | ';' :: more => areParameters (more.length + 1) more
    | _ => false
  | _ => false

end EndpointGuard.Http
