import EndpointGuard.Text.Percent

/-!
# The path of a request target

A request names its target by a path, alone or behind a host, with an optional query and fragment.
`targetPath?` answers the path as written and `matchedPath` the decoded one, by which requests are
routed and checked.
-/

namespace EndpointGuard.Http

/-- The character may stand in a path as written. -/
def isPathChar (c : Char) : Bool :=
  0x20 < c.toNat && c.toNat < 0x7f && c ≠ '<' && c ≠ '>' && c ≠ '\x60'

/-- The character may stand in a query as written. -/
def isQueryChar (c : Char) : Bool :=
  0x20 < c.toNat && c.toNat < 0x7f && c ≠ '"' && c ≠ '<' && c ≠ '>'

/-- The character ends a path. -/
def endsPath (c : Char) : Bool :=
  c = '?' || c = '#'

/-- The path at the beginning of a text, up to its query or fragment. A missing path is the root. -/
def leadingPath? (text : List Char) : Option String :=
  let path := text.takeWhile (!endsPath ·)
  let query := ((text.dropWhile (!endsPath ·)).takeWhile (· ≠ '#')).drop 1
  if path.all isPathChar && query.all isQueryChar then
    some (if path = [] then "/" else String.ofList path)
  else
    none

/-- The path of a request target, if the target is well formed. -/
def targetPath? (target : String) : Option String :=
  match target.toList with
  | '/' :: _ => leadingPath? target.toList
  | text =>
    match ["http://", "https://"].findSome? fun scheme ↦ scheme.toList.isPrefixOf? text with
    | none => none
    | some rest =>
      let inHost (c : Char) : Bool := c ≠ '/' && !endsPath c
      let host := rest.takeWhile inHost
      if host ≠ [] && host.all isPathChar then leadingPath? (rest.dropWhile inHost) else none

/-- The decoded form of a path as written. -/
def matchedPath (path : String) : String :=
  Text.decodePercent Text.keptInPath path

end EndpointGuard.Http
