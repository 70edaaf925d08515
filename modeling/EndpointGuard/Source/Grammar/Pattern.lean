import EndpointGuard.Source.Grammar.Type

/-!
# Patterns

The rule of patterns. A grammar's pattern is a single one; alternatives of it stand between bars.
-/

namespace EndpointGuard.Source

open Source.Parser

/-! ## Alternatives -/

/-- A bar between alternatives comes next. -/
def isBar : Ahead :=
  fun tokens ↦ isSymbolBut "|" "||" tokens && !isSymbol "|=" tokens

/-- Alternative patterns, with an optional bar in front of the first. -/
def alternatives (single : Parser PatternForm) : Parser PatternForm := do
  let lead ← symbol? "|"
  let first ← single
  let more ← many isBar (do
    let bar ← symbol "|"
    return bar ++ (← single).tokens)
  let alone := lead.isEmpty && more.isEmpty
  return ⟨first.openRange && alone, lead ++ first.tokens ++ more⟩

/-- Alternative patterns with commas between them, up to the end of a group. -/
def patternList (g : Grammar) : Parser (List Token) :=
  commaSeparated atEnd do
    return (← alternatives g.pattern).tokens

/-! ## Ranges -/

/-- A range has no end when one of these comes next. -/
def isRangeStop : Ahead :=
  anyOf [atEnd, isSymbol "|", isSymbol "=", isSymbolBut ":" "::", isSymbol ",", isSymbol ";",
    isWord "if"]

/-- A constant block. -/
def constantBlock (g : Grammar) : Parser (List Token) := do
  let mark ← word "const"
  return mark ++ (← blockWithAttributes g)

/-- One end of a range in a pattern: a literal, a path or a constant block. -/
def rangeBound (g : Grammar) : Parser (List Token) := do
  if ← ahead isLiteral then literal
  else if ← ahead isPathStart then return (← qualifiedPath g true).2.tokens
  else constantBlock g

/-- The mark of a range and its end. The end may be missing unless the range includes it. The answer
tells whether it is there. -/
def rangeTail (g : Grammar) : Parser (Bool × List Token) := do
  let old ← ahead (isSymbol "...")
  let closed ← ahead (isSymbol "..=")
  let _ ← symbol (if old then "..." else if closed then "..=" else "..")
  let mark := Token.symbol (if old || closed then "..=" else "..")
  if ← ahead isRangeStop then
    if old || closed then failure else return (false, mark)
  else
    return (true, mark ++ (← rangeBound g))

/-- A pattern that begins with one end of a range: that end, or the range. -/
def literalOrRange (g : Grammar) : Parser PatternForm := do
  let start ← rangeBound g
  if ← ahead (isSymbol "..") then
    let (complete, tail) ← rangeTail g
    return ⟨!complete, start ++ tail⟩
  else
    return ⟨false, start⟩

/-- A range without a beginning, or the mark for all the rest. -/
def rangeToOrRest (g : Grammar) : Parser PatternForm := do
  let (isRange, tokens) ← rangeTail g
  return ⟨isRange, tokens⟩

/-! ## Paths and structures -/

/-- The name or the position of a field; a position is written in digits alone. -/
def member : Parser (Bool × List Token) := do
  match ← get with
  | .literal text :: rest =>
    match text.toNat? with
    | some n =>
      if text.all Char.isDigit && n < Nat.pow 2 32 then
        set rest
        return (false, [.literal (toString n)])
      else
        failure
    | none => failure
  | _ => return (true, ← nameToken)

/-- A field of a structure pattern. -/
def fieldPattern (g : Grammar) : Parser (List Token) := do
  let boxed ← word? "box"
  let byReference ← word? "ref"
  let access ← word? "mut"
  let modifiers := boxed ++ byReference ++ access
  if modifiers.isEmpty then
    let (isName, field) ← member
    if !isName || (← ahead (isSymbol ":")) then
      let colon ← symbol ":"
      return field ++ colon ++ (← alternatives g.pattern).tokens
    else
      return field
  else
    return modifiers ++ (← nameToken)

/-- The fields of a structure pattern. Dots for all other fields come last. -/
def fieldPatterns (g : Grammar) : Parser (List Token) :=
  commaSeparated atEnd do
    let attrs ← outerTokens g
    if ← ahead (isSymbol "..") then
      let dots ← symbol ".."
      if ← ahead atEnd then return attrs ++ dots else failure
    else
      return attrs ++ (← fieldPattern g)

/-- A pattern that begins with a path: the path, a macro, a structure or a range. -/
def pathPattern (g : Grammar) : Parser PatternForm := do
  let (qualified, path) ← qualifiedPath g true
  if !qualified && path.plain && (← ahead isMacroMark) then
    return ⟨false, path.tokens ++ (← macroArguments)⟩
  else if ← ahead (isGroup .brace) then
    return ⟨false, path.tokens ++ (← group .brace (fieldPatterns g))⟩
  else if ← ahead (isGroup .paren) then
    return ⟨false, path.tokens ++ (← group .paren (patternList g))⟩
  else if ← ahead (isSymbol "..") then
    let (complete, tail) ← rangeTail g
    return ⟨!complete, path.tokens ++ tail⟩
  else
    return ⟨false, path.tokens⟩

/-- A path that is more than a name comes next. -/
def isPathPattern : Ahead :=
  let behindName :=
    anyOf [isSymbol "::", isSymbol "!", isGroup .brace, isGroup .paren, isSymbol ".."]
  anyOf [fun tokens ↦ isName tokens && second behindName tokens,
    fun tokens ↦ isWord "self" tokens && second (isSymbol "::") tokens,
    isSymbol "::", isSymbol "<", isWordOf ["Self", "super", "crate"]]

/-! ## The rule -/

/-- A pattern that binds a name. -/
def bindingPattern (g : Grammar) : Parser (List Token) := do
  let byReference ← word? "ref"
  let access ← word? "mut"
  let name ← if ← ahead (isWord "self") then word "self" else nameToken
  let part ← when (isSymbol "@") (do
    let mark ← symbol "@"
    return mark ++ (← g.pattern).tokens)
  return byReference ++ access ++ name ++ part

/-- A pattern for what a reference points to. -/
def referencePattern (g : Grammar) : Parser (List Token) := do
  let mark ← symbol "&"
  let access ← word? "mut"
  return mark ++ access ++ (← g.pattern).tokens

/-- A pattern for what a box holds. -/
def boxPattern (g : Grammar) : Parser (List Token) := do
  let mark ← word "box"
  return mark ++ (← g.pattern).tokens

/-- A pattern for the items of a slice; ranges without one of their ends are no such patterns. -/
def slicePattern (g : Grammar) : Parser (List Token) :=
  group .bracket <| commaSeparated atEnd do
    let item ← alternatives g.pattern
    if item.openRange then failure else return item.tokens

/-- The rule of single patterns. -/
def patternRule (g : Grammar) : Parser PatternForm := do
  if ← ahead isPathPattern then pathPattern g
  else if ← ahead (isWord "_") then return ⟨false, ← word "_"⟩
  else if ← ahead (isWord "box") then return ⟨false, ← boxPattern g⟩
  else if ← ahead (anyOf [isSymbol "-", isLiteral, isWord "const"]) then literalOrRange g
  else if ← ahead (anyOf [isWordOf ["ref", "mut", "self"], isName]) then
    return ⟨false, ← bindingPattern g⟩
  else if ← ahead (isSymbol "&") then return ⟨false, ← referencePattern g⟩
  else if ← ahead (isGroup .paren) then return ⟨false, ← group .paren (patternList g)⟩
  else if ← ahead (isGroup .bracket) then return ⟨false, ← slicePattern g⟩
  else if ← ahead (isSymbolBut ".." "...") then rangeToOrRest g
  else failure

end EndpointGuard.Source
