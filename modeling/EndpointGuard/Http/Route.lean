import EndpointGuard.Text.Percent

/-!
# Routes

A route answers the requests whose path matches its pattern, and whose method is its own if it has
one. `dispatch` answers by the first route that fits. In a pattern, `{name}` is a variable that
stands for one segment of a path, and `{name:regex}` one that stands for what a regular expression
matches.

Reading patterns and matching paths is the work of a `Router`, which is a parameter, as there is no
end to the regular expressions that a pattern may hold. `Router.ReadsPlain` is what is relied on:
`patternParts?` tells which patterns are plain, and `matchParts` which paths these match. A router
may read other patterns in any way. `Router.standard` takes them for patterns that match nothing.
-/

namespace EndpointGuard.Http

/-! ## Plain patterns -/

/-- How far a variable goes: over one segment of a path, or over any part of it. -/
inductive Extent where
  | segment
  | anything
deriving DecidableEq

/-- A part of a pattern: a fixed text or a variable. -/
inductive PatternPart where
  | text (fixed : String)
  | capture (extent : Extent)
deriving DecidableEq

/-- The beginnings of a text that are not empty, the longest first. -/
def beginnings (text : List Char) : List (List Char) :=
  (List.range text.length).reverse.map fun n ↦ text.take (n + 1)

/-- The beginnings of a path that a variable can stand for, the longest first. A segment has no
slash and is not empty. -/
def Extent.choices : Extent → List Char → List (List Char)
  | .segment, path => beginnings (path.takeWhile (· ≠ '/'))
  | .anything, path => beginnings path ++ [[]]

/-- Match a path, and answer the texts that stand for its variables. Each takes as much of the path
as it can. -/
def matchParts : List PatternPart → List Char → Option (List (List Char))
  | [], [] => some []
  | [], _ :: _ => none
  | .text fixed :: parts, path =>
    match fixed.toList.isPrefixOf? path with
    | some rest => matchParts parts rest
    | none => none
  | .capture extent :: parts, path =>
    (extent.choices path).findSome? fun found ↦
      (matchParts parts (path.drop found.length)).map (found :: ·)

/-- A variable of a pattern: its name, how far it goes, and the fixed text that follows it. -/
structure PatternVariable where
  name : List Char
  extent : Extent
  after : List Char
deriving DecidableEq

/-- The parts of a pattern that a variable makes up with the text that follows it. -/
def PatternVariable.parts (found : PatternVariable) : List PatternPart :=
  [.capture found.extent, .text (String.ofList found.after)]

/-- The name is plain: letters, digits and underscores, with no digit in front. -/
def isPlainName (name : List Char) : Bool :=
  name.all (fun c ↦ c.isAlphanum || c = '_') && name.head?.any (!·.isDigit)

/-- How far a variable goes, from what stands behind its name: nothing, or a colon and a regular
expression. -/
def extentOf? (text : List Char) : Option Extent :=
  if text = [] then some .segment
  else if text = ":.*".toList then some .anything
  else none

/-- Read a plain variable from the text between its opening brace and the next one. -/
def readVariable? (text : List Char) : Option PatternVariable :=
  let inside := text.takeWhile (· ≠ '\x7d')
  let name := inside.takeWhile (· ≠ ':')
  match text.dropWhile (· ≠ '\x7d'), extentOf? (inside.dropWhile (· ≠ ':')) with
  | _ :: after, some extent => if isPlainName name then some ⟨name, extent, after⟩ else none
  | _, _ => none

/-- Read the plain variables of a pattern one after the other. -/
def readVariables? : List (List Char) → Option (List PatternVariable)
  | [] => some []
  | text :: rest =>
    match readVariable? text, readVariables? rest with
    | some first, some others => some (first :: others)
    | _, _ => none

/-- The most variables that a plain pattern has. -/
def variableLimit : Nat :=
  16

/-- The parts of a plain pattern. A pattern is plain when its variables have plain names, all
different, and stand for segments or for anything, and when no asterisk ends it. Nothing is said
about other patterns: they may hold regular expressions, or be no patterns at all. -/
def patternParts? (pattern : List Char) : Option (List PatternPart) :=
  if pattern.getLast? = some '*' then
    none
  else
    match pattern.splitOn '\x7b' with
    | [] => some []
    | fixed :: texts =>
      match readVariables? texts with
      | none => none
      | some found =>
        if (found.map PatternVariable.name).Nodup ∧ found.length ≤ variableLimit then
          some (.text (String.ofList fixed) :: found.flatMap PatternVariable.parts)
        else
          none

/-! ## Routers -/

/-- The text with a slash in front, unless it is empty. -/
def withSlash (pattern : String) : String :=
  match pattern.toList with
  | [] => pattern
  | '/' :: _ => pattern
  | _ => "/" ++ pattern

/-- A router: it answers the texts that stand for the variables of a pattern, in their order, where
the pattern matches a path. A pattern that it cannot read matches no path. -/
structure Router where
  captures? (pattern path : String) : Option (List (List Char))

/-- The router puts a slash in front of a pattern without one, and a plain pattern matches the paths
that its parts match. -/
def Router.ReadsPlain (router : Router) : Prop :=
  ∀ pattern parts path, patternParts? (withSlash pattern).toList = some parts →
    router.captures? pattern path = matchParts parts path.toList

/-- The router that reads plain patterns only. -/
def Router.standard : Router where
  captures? pattern path :=
    match patternParts? (withSlash pattern).toList with
    | some parts => matchParts parts path.toList
    | none => none

/-- The text of a variable with all its percent-encoding removed. -/
def captured (found : List Char) : String :=
  Text.decodePercent (fun _ ↦ false) (String.ofList found)

/-! ## Dispatching -/

/-- A route with what it answers to the texts of its variables. -/
structure Route (ρ : Type) where
  method : Option String
  pattern : String
  answer : List String → ρ

/-- The answer of a route to a request that fits it. -/
def Route.answer? {ρ : Type} (route : Route ρ) (router : Router) (method path : String) :
    Option ρ :=
  if route.method.all (· = method) then
    (router.captures? route.pattern path).map fun found ↦ route.answer (found.map captured)
  else
    none

/-- The answer of the first route that fits a request, or the one given for none. -/
def dispatch {ρ : Type} (router : Router) (routes : List (Route ρ)) (otherwise : ρ)
    (method path : String) : ρ :=
  (routes.findSome? fun route ↦ route.answer? router method path).getD otherwise

/-- The pattern of the calls under a path: an endpoint and a method below it. -/
def callText (pathPrefix : String) : String :=
  pathPrefix ++ "/\x7bendpoint\x7d/\x7bmethod\x7d"

/-- The route of the calls under a path. -/
def callRoute {ρ : Type} (pathPrefix : String) (answer : List String → ρ) : Route ρ where
  method := some "POST"
  pattern := callText pathPrefix
  answer := answer

end EndpointGuard.Http
