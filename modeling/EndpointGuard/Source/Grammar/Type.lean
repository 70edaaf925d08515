import EndpointGuard.Source.Grammar.Path

/-!
# Types

The rule of types. A type may be a sum of bounds without a word in front of it where plus signs are
allowed, as in generic arguments; behind a reference or a pointer they are not.
-/

namespace EndpointGuard.Source

open Source.Parser

/-! ## Sums of bounds -/

/-- Another bound can begin here. -/
def isBoundStart : Ahead :=
  anyOf [isAnyWord, isSymbol "::", isSymbol "?", isLifetime, isGroup .paren]

/-- The bound that comes next is neither a lifetime nor a capture. -/
def isTraitBound (capturing : Bool) : Ahead :=
  fun tokens ↦ !isLifetime tokens && !(capturing && isWord "use" tokens)

/-- The bounds behind a first one, each behind a plus sign, at most `fuel` of them, and whether one
of them is a trait. A sign may stand behind the last. -/
def furtherBounds (g : Grammar) (capturing : Bool) : Nat → Parser (Bool × List Token)
  | 0 => failure
  | fuel + 1 => do
    if ← ahead (isSymbol "+") then
      let plus ← symbol "+"
      if ← ahead isBoundStart then
        let isTrait ← ahead (isTraitBound capturing)
        let first ← bound g capturing
        let (traits, more) ← furtherBounds g capturing fuel
        return (isTrait || traits, plus ++ first ++ more)
      else
        return (false, plus)
    else
      return (false, [])

/-- Bounds behind a first one where plus signs are allowed. -/
def boundsBehind (g : Grammar) (capturing allowPlus : Bool) : Parser (Bool × List Token) :=
  if allowPlus then
    fun tokens ↦ furtherBounds g capturing (tokens.length + 1) tokens
  else
    pure (false, [])

/-- Bounds, at least one of which is a trait, and whether there are several. -/
def traitBounds (g : Grammar) (capturing allowPlus : Bool) : Parser (Bool × List Token) := do
  let isTrait ← ahead (isTraitBound capturing)
  let first ← bound g capturing
  let (traits, more) ← boundsBehind g capturing allowPlus
  if isTrait || traits then return (!more.isEmpty, first ++ more) else failure

/-- Bounds behind a first one in parentheses, each behind a plus sign. -/
def boundsBehindGroup (g : Grammar) : Parser (List Token) :=
  many (isSymbol "+") do
    let plus ← symbol "+"
    return plus ++ (← bound g false)

/-! ## Types in parentheses -/

/-- What stands in the parentheses of a type: nothing, bounds that begin with a lifetime, a single
type, or several. The kind is that of a single type. -/
def parenthesizedContent (g : Grammar) : Parser TypeForm := do
  if ← ahead atEnd then
    return ⟨.other, []⟩
  else if ← ahead isLifetime then
    return ⟨.other, (← traitBounds g false true).2⟩
  else
    let first ← g.type true
    if ← ahead (isSymbol ",") then
      let comma ← symbol ","
      let more ← commaSeparated atEnd (do return (← g.type true).tokens)
      return ⟨.other, first.tokens ++ comma ++ more⟩
    else
      return first

/-- A doubtful bound in parentheses comes next. -/
def isDoubtfulGroup : Ahead
  | .group .paren body :: _ => isSymbol "?" body
  | _ => false

/-- A type that in parentheses may be the first bound of a sum. -/
def TypeKind.isBound : TypeKind → Bool
  | .path _ _ => true
  | .bounds several => !several
  | .other => false

/-- A type in parentheses, or several types. -/
def parenthesizedType (g : Grammar) (allowPlus : Bool) : Parser TypeForm := do
  if ← ahead isDoubtfulGroup then
    let first ← bound g false
    let more ← boundsBehindGroup g
    return ⟨.bounds !more.isEmpty, first ++ more⟩
  else
    let content ← inside .paren (parenthesizedContent g)
    let tokens := [.group .paren content.tokens]
    if allowPlus && content.kind.isBound && (← ahead (isSymbol "+")) then
      return ⟨.bounds true, tokens ++ (← boundsBehindGroup g)⟩
    else
      return ⟨.other, tokens⟩

/-! ## Function types -/

/-- The calling convention of a function, if it comes next. -/
def callingConvention? : Parser (List Token) :=
  when (isWord "extern") do
    let mark ← word "extern"
    let name ← when isStringLiteral stringLiteral
    return mark ++ name

/-- A name and a colon come next, and no separator of a path. -/
def isNamed : Ahead :=
  fun tokens ↦ anyOf [isName, isWord "_"] tokens && second (isSymbolBut ":" "::") tokens

/-- A name with a colon, if they come next. -/
def named? : Parser (List Token) :=
  when isNamed do
    let name ← nameOrBlank
    let colon ← symbol ":"
    return name ++ colon

/-- An input of a function type. Dots stand for any number of further inputs. -/
def functionTypeInput (g : Grammar) : Parser (List Token) := do
  let attrs ← outerTokens g
  let name ← named?
  if ← ahead (isSymbol "...") then
    let dots ← symbol "..."
    let comma ← symbol? ","
    if ← ahead atEnd then return attrs ++ name ++ dots ++ comma else failure
  else
    return attrs ++ name ++ (← g.type true).tokens

/-- A function type. -/
def functionType (g : Grammar) : Parser (List Token) := do
  let safety ← word? "unsafe"
  let convention ← callingConvention?
  let mark ← word "fn"
  let inputs ← group .paren (commaSeparated atEnd (functionTypeInput g))
  let output ← returnType g false
  return safety ++ convention ++ mark ++ inputs ++ output

/-! ## The rule -/

/-- A path or one of its qualifiers comes next. -/
def isPathStart : Ahead :=
  anyOf [isPathWord, isSymbol "::", isSymbol "<"]

/-- The mark of a macro comes next. -/
def isMacroMark : Ahead :=
  isSymbolBut "!" "!="

/-- The mark of a macro with its arguments as they stand. -/
def macroArguments : Parser (List Token) := do
  let mark ← symbol "!"
  return mark ++ (← anyGroup)

/-- A type that begins with a path: the path, a macro, or bounds. -/
def pathType (g : Grammar) (allowPlus : Bool) (lifetimes : List Token) : Parser TypeForm := do
  let (qualified, path) ← qualifiedPath g false
  let path ← withParenthesized g path
  if qualified then
    return ⟨.other, path.tokens⟩
  else if path.plain && (← ahead isMacroMark) then
    return ⟨.other, path.tokens ++ (← macroArguments)⟩
  else
    let first := lifetimes ++ path.tokens
    if !lifetimes.isEmpty || allowPlus && (← ahead (isSymbol "+")) then
      let (_, more) ← boundsBehind g false allowPlus
      return ⟨.bounds !more.isEmpty, first ++ more⟩
    else
      let single := path.segments = 1 && !path.leading && !path.parenthesized
      return ⟨.path path.last single, first⟩

/-- An array or a slice. -/
def arrayType (g : Grammar) : Parser (List Token) :=
  group .bracket do
    let item ← g.type true
    if ← ahead (isSymbol ";") then
      let mark ← symbol ";"
      let size ← g.expression true
      return item.tokens ++ mark ++ size.tokens
    else
      return item.tokens

/-- A pointer. -/
def pointerType (g : Grammar) : Parser (List Token) := do
  let mark ← symbol "*"
  let access ← if ← ahead (isWord "const") then word "const" else word "mut"
  return mark ++ access ++ (← g.type false).tokens

/-- A reference. -/
def referenceType (g : Grammar) : Parser (List Token) := do
  let mark ← symbol "&"
  let lifetime ← lifetime?
  let access ← word? "mut"
  return mark ++ lifetime ++ access ++ (← g.type false).tokens

/-- An object type: bounds behind the word for it. -/
def objectType (g : Grammar) (allowPlus : Bool) : Parser (List Token) := do
  let mark ← word "dyn"
  return mark ++ (← traitBounds g false allowPlus).2

/-- A hidden type: bounds behind the word for it. -/
def hiddenType (g : Grammar) (allowPlus : Bool) : Parser (List Token) := do
  let mark ← word "impl"
  return mark ++ (← traitBounds g true allowPlus).2

/-- The rule of types. Lifetimes in front belong to a function or to a bound. -/
def typeRule (g : Grammar) (allowPlus : Bool) : Parser TypeForm := do
  let isFunction := isWordOf ["fn", "unsafe", "extern"]
  let lifetimes ← when (isWord "for") (boundLifetimes g lifetimeParameter)
  if !lifetimes.isEmpty && !(← ahead (anyOf [isPathWord, isFunction])) then
    failure
  else if ← ahead (isGroup .paren) then
    parenthesizedType g allowPlus
  else if ← ahead isFunction then
    return ⟨.other, lifetimes ++ (← functionType g)⟩
  else if ← ahead isPathStart then
    pathType g allowPlus lifetimes
  else if ← ahead (isWord "dyn") then
    if ← ahead (second (isSymbol "*")) then
      return ⟨.other, ← verbatim (do
        let _ ← word "dyn"
        let _ ← symbol "*"
        traitBounds g false allowPlus)⟩
    else
      return ⟨.other, ← objectType g allowPlus⟩
  else if ← ahead (isGroup .bracket) then
    return ⟨.other, ← arrayType g⟩
  else if ← ahead (isSymbol "*") then
    return ⟨.other, ← pointerType g⟩
  else if ← ahead (isSymbol "&") then
    return ⟨.other, ← referenceType g⟩
  else if ← ahead isMacroMark then
    return ⟨.other, ← symbol "!"⟩
  else if ← ahead (isWord "impl") then
    return ⟨.other, ← hiddenType g allowPlus⟩
  else if ← ahead (isWord "_") then
    return ⟨.other, ← word "_"⟩
  else if ← ahead isLifetime then
    let (several, tokens) ← traitBounds g false true
    return ⟨.bounds several, tokens⟩
  else
    failure

end EndpointGuard.Source
