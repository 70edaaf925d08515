import EndpointGuard.Source.Grammar.Operator

/-!
# Expressions

The rules of expressions: what an expression is made of, what stands behind it, and operators in
front of it and between. An expression at the beginning of a statement ends with its block, where
elsewhere an operator could follow.
-/

namespace EndpointGuard.Source

open Source.Parser

/-! ## Parts -/

/-- An expression that may be a structure literal, as tokens. -/
def anyExpression (g : Grammar) : Parser (List Token) := do
  return (← g.expression true).tokens

/-- An expression in front of a block, as tokens. -/
def headExpression (g : Grammar) : Parser (List Token) := do
  return (← g.expression false).tokens

/-- Expressions with commas between them, up to the end of a group. -/
def expressionList (g : Grammar) : Parser (List Token) :=
  commaSeparated atEnd (anyExpression g)

/-- An expression can begin here. -/
def isExpressionStart : Ahead :=
  anyOf [isAnyWord, isGroup .paren, isGroup .bracket, isGroup .brace, isLiteral,
    isSymbolBut "!" "!=", fun tokens ↦ isSymbolBut "-" "-=" tokens && !isSymbol "->" tokens,
    isSymbolBut "*" "*=", isSymbolBut "|" "|=", isSymbolBut "&" "&=", isSymbol "..",
    fun tokens ↦ isSymbolBut "<" "<=" tokens && !isSymbol "<<=" tokens, isSymbol "::", isLifetime,
    isSymbol "#"]

/-- An expression, if one can begin here. -/
def expression? (g : Grammar) (allowStruct : Bool) : Parser (List Token) := do
  let starts ← ahead fun tokens ↦
    isExpressionStart tokens && (allowStruct || !isGroup .brace tokens)
  if starts then return (← g.expression allowStruct).tokens else return []

/-! ## Expressions with blocks -/

/-- The word for a kind of block and its statements. -/
def wordBlock (g : Grammar) (text : String) : Parser (List Token) := do
  let mark ← word text
  return mark ++ (← blockWithAttributes g)

/-- Branches on conditions, at most `fuel` of them. -/
def branches (g : Grammar) : Nat → Parser (List Token)
  | 0 => failure
  | fuel + 1 => do
    let mark ← word "if"
    let head ← headExpression g
    let body ← block g
    if ← ahead (isWord "else") then
      let other ← word "else"
      let rest ← if ← ahead (isWord "if") then branches g fuel else block g
      return mark ++ head ++ body ++ other ++ rest
    else
      return mark ++ head ++ body

/-- Branches on conditions. -/
def conditional (g : Grammar) : Parser (List Token) :=
  fun tokens ↦ branches g (tokens.length + 1) tokens

/-- A loop with a condition. -/
def whileLoop (g : Grammar) : Parser (List Token) := do
  let mark ← word "while"
  let head ← headExpression g
  return mark ++ head ++ (← blockWithAttributes g)

/-- A loop over items. -/
def forLoop (g : Grammar) : Parser (List Token) := do
  let mark ← word "for"
  let item ← alternatives g.pattern
  let among ← word "in"
  let head ← headExpression g
  return mark ++ item.tokens ++ among ++ head ++ (← blockWithAttributes g)

/-- An arm of a case distinction. Behind it stands a comma unless it is the last or ends with a
block. -/
def matchArm (g : Grammar) : Parser (List Token) := do
  let attrs ← outerTokens g
  let cases ← alternatives g.pattern
  let guard ← when (isWord "if") (do
    let mark ← word "if"
    return mark ++ (← anyExpression g))
  let arrow ← symbol "=>"
  let body ← g.leadingExpression
  let optional := body.kind = .block || (← ahead atEnd)
  let comma ← if optional then symbol? "," else symbol ","
  return attrs ++ cases.tokens ++ guard ++ arrow ++ body.tokens ++ comma

/-- A case distinction. -/
def caseDistinction (g : Grammar) : Parser (List Token) := do
  let mark ← word "match"
  let head ← headExpression g
  let arms ← group .brace do
    let attrs ← innerTokens g
    let arms ← many (fun tokens ↦ !atEnd tokens) (matchArm g)
    return attrs ++ arms
  return mark ++ head ++ arms

/-- A loop or a block behind a label. -/
def labelled (g : Grammar) : Parser (List Token) := do
  let label ← lifetime
  let colon ← symbol ":"
  let body ←
    if ← ahead (isWord "while") then whileLoop g
    else if ← ahead (isWord "for") then forLoop g
    else if ← ahead (isWord "loop") then wordBlock g "loop"
    else blockWithAttributes g
  return label ++ colon ++ body

/-! ## Closures and jumps -/

/-- A parameter of a closure. -/
def closureParameter (g : Grammar) : Parser (List Token) := do
  let attrs ← outerTokens g
  let pattern ← g.pattern
  let type ← when (isSymbol ":") (do
    let colon ← symbol ":"
    return colon ++ (← g.type true).tokens)
  return attrs ++ pattern.tokens ++ type

/-- A closure. With a result type its body is a block. -/
def closure (g : Grammar) (allowStruct : Bool) : Parser (List Token) := do
  let lifetimes ← when (isWord "for") (boundLifetimes g lifetimeParameter)
  let constancy ← word? "const"
  let movability ← word? "static"
  let asynchrony ← word? "async"
  let capture ← word? "move"
  let opening ← symbol "|"
  let parameters ← commaSeparated (isSymbol "|") (closureParameter g)
  let closing ← symbol "|"
  let body ←
    if ← ahead (isSymbol "->") then do
      let result ← returnType g true
      let body ← block g
      pure (result ++ body)
    else do
      pure (← g.expression allowStruct).tokens
  return lifetimes ++ constancy ++ movability ++ asynchrony ++ capture ++ opening ++ parameters ++
    closing ++ body

/-- A jump out of a loop or block, with a label and a value if there are any. A labelled loop is no
such value. -/
def breakExpression (g : Grammar) (allowStruct : Bool) : Parser (List Token) := do
  let mark ← word "break"
  let label ← lifetime?
  if !label.isEmpty && (← ahead (isSymbol ":")) then
    failure
  else
    return mark ++ label ++ (← expression? g allowStruct)

/-- A word with a value if there is one. -/
def wordExpression (g : Grammar) (text : String) : Parser (List Token) := do
  let mark ← word text
  return mark ++ (← expression? g true)

/-- A condition that is a pattern. -/
def letExpression (g : Grammar) (allowStruct : Bool) : Parser (List Token) := do
  let mark ← word "let"
  let cases ← alternatives g.pattern
  let equals ← symbol "="
  return mark ++ cases.tokens ++ equals ++ (← rightOperand g allowStruct .comparison).tokens

/-! ## Literals -/

/-- An array of items or of copies of one item. -/
def arrayExpression (g : Grammar) : Parser (List Token) :=
  group .bracket do
    if ← ahead atEnd then
      return []
    else
      let first ← anyExpression g
      if ← ahead (isSymbol ";") then
        let mark ← symbol ";"
        return first ++ mark ++ (← anyExpression g)
      else if ← ahead (isSymbol ",") then
        let comma ← symbol ","
        return first ++ comma ++ (← expressionList g)
      else
        return first

/-- A field of a structure literal, or dots for all other fields, which come last. -/
def fieldValue (g : Grammar) : Parser (List Token) := do
  if ← ahead (isSymbol "..") then
    let dots ← symbol ".."
    let rest ← if ← ahead atEnd then pure [] else anyExpression g
    if ← ahead atEnd then return dots ++ rest else failure
  else
    let attrs ← outerTokens g
    let (isName, field) ← member
    if !isName || (← ahead (isSymbol ":")) then
      let colon ← symbol ":"
      return attrs ++ field ++ colon ++ (← anyExpression g)
    else
      return attrs ++ field

/-- An expression that begins with a path: the path, a macro or a structure literal. -/
def pathExpression (g : Grammar) (allowStruct : Bool) : Parser Expression := do
  let (qualified, path) ← qualifiedPath g true
  if !qualified && path.plain && (← ahead isMacroMark) then
    let braces ← ahead (second (isGroup .brace))
    return ⟨.macroCall braces, path.tokens ++ (← macroArguments)⟩
  else if allowStruct && (← ahead (isGroup .brace)) then
    return ⟨.other, path.tokens ++ (← group .brace (commaSeparated atEnd (fieldValue g)))⟩
  else
    return ⟨.path, path.tokens⟩

/-! ## Atoms -/

/-- A block behind the word `async`, and perhaps the word `move`, comes next. -/
def isAsyncBlock : Ahead :=
  fun tokens ↦ isWord "async" tokens &&
    (second (isGroup .brace) tokens ||
      (second (isWord "move") tokens && third (isGroup .brace) tokens))

/-- The lifetimes in front of a closure come next. -/
def isBoundClosure : Ahead :=
  fun tokens ↦ isWord "for" tokens && second (isSymbol "<") tokens &&
    third (anyOf [isLifetime, isSymbol ">"]) tokens

/-- A closure comes next. -/
def isClosure : Ahead :=
  anyOf [isSymbol "|", isWordOf ["move", "static"], isBoundClosure,
    fun tokens ↦ isWord "const" tokens && !second (isGroup .brace) tokens,
    fun tokens ↦ isWord "async" tokens && second (anyOf [isSymbol "|", isWord "move"]) tokens]

/-- A path in an expression comes next. -/
def isPathExpression : Ahead :=
  anyOf [isPathStart,
    fun tokens ↦ isWord "try" tokens && second (anyOf [isSymbol "!", isSymbol "::"]) tokens]

/-- A word with a block of its own comes next. -/
def isWordBlock (text : String) : Ahead :=
  fun tokens ↦ isWord text tokens && second (isGroup .brace) tokens

/-- An expression that ends with a block and may stand as a statement by itself. -/
def blockExpression? (g : Grammar) : Parser (Option (List Token)) := do
  if ← ahead (isWord "if") then return some (← conditional g)
  else if ← ahead (isWord "while") then return some (← whileLoop g)
  else if ← ahead (fun tokens ↦ isWord "for" tokens && !isBoundClosure tokens) then
    return some (← forLoop g)
  else if ← ahead (isWord "loop") then return some (← wordBlock g "loop")
  else if ← ahead (isWord "match") then return some (← caseDistinction g)
  else if ← ahead (isWordBlock "try") then
    let mark ← word "try"
    return some (mark ++ (← block g))
  else if ← ahead (isWord "unsafe") then return some (← wordBlock g "unsafe")
  else if ← ahead (isWordBlock "const") then return some (← wordBlock g "const")
  else if ← ahead (isGroup .brace) then return some (← blockWithAttributes g)
  else if ← ahead isLifetime then return some (← labelled g)
  else return none

/-- A string or another literal. -/
def literalExpression : Parser Expression := do
  let kind := if ← ahead isStringLiteral then .stringLiteral else .other
  return ⟨kind, ← literal⟩

/-- A block whose value comes later. -/
def asyncBlock (g : Grammar) : Parser (List Token) := do
  let mark ← word "async"
  let capture ← word? "move"
  return mark ++ capture ++ (← block g)

/-- An expression without operators and without anything behind it. -/
def atom (g : Grammar) (allowStruct : Bool) : Parser Expression := do
  if ← ahead isLiteral then literalExpression
  else if ← ahead isAsyncBlock then return ⟨.other, ← asyncBlock g⟩
  else if ← ahead isClosure then return ⟨.other, ← closure g allowStruct⟩
  else if ← ahead isPathExpression then pathExpression g allowStruct
  else if ← ahead (isGroup .paren) then return ⟨.other, ← group .paren (expressionList g)⟩
  else if ← ahead (isGroup .bracket) then return ⟨.other, ← arrayExpression g⟩
  else if ← ahead (isWord "break") then return ⟨.other, ← breakExpression g allowStruct⟩
  else if ← ahead (isWord "continue") then
    let mark ← word "continue"
    return ⟨.other, mark ++ (← lifetime?)⟩
  else if ← ahead (isWord "return") then return ⟨.other, ← wordExpression g "return"⟩
  else if ← ahead (isWord "yield") then return ⟨.other, ← wordExpression g "yield"⟩
  else if ← ahead (isWord "become") then
    return ⟨.other, ← verbatim (do
      let _ ← word "become"
      g.expression true)⟩
  else if ← ahead (isWord "let") then return ⟨.other, ← letExpression g allowStruct⟩
  else if ← ahead (isSymbol "..") then return ⟨.range, ← rangeTo g allowStruct⟩
  else if ← ahead (isWord "_") then return ⟨.other, ← word "_"⟩
  else
    match ← blockExpression? g with
    | some tokens => return ⟨.block, tokens⟩
    | none => failure

/-! ## What stands behind an expression -/

/-- The positions in a literal such as `0.1` behind a dot, with dots between them. -/
def positions? (text : String) : Option (List Token) := do
  let numbers ← (text.splitOn ".").mapM fun part ↦
    if part.all Char.isDigit then part.toNat? else none
  return (numbers.map fun n ↦ Token.literal (toString n)).intersperse (.punct '.' false)

/-- What stands behind a dot: two positions, a value that comes later, a field, or a method with its
arguments. -/
def selection (g : Grammar) : Parser (List Token) := do
  match ← get with
  | .literal text :: rest =>
    if isFloatText text then
      match positions? text with
      | some tokens =>
        set rest
        return tokens
      | none => failure
    else
      return (← member).2
  | _ =>
    if ← ahead (isWord "await") then
      word "await"
    else
      let method ← nameToken
      let mark ← symbol? "::"
      let arguments ← if mark.isEmpty then pure [] else genericArguments g
      if !mark.isEmpty || (← ahead (isGroup .paren)) then
        return method ++ mark ++ arguments ++ (← group .paren (expressionList g))
      else
        return method

/-- What stands behind an expression, at most `fuel` parts of it. Behind a range stand no dots and
no question marks. -/
def trailersFuel (g : Grammar) : Nat → Expression → Parser Expression
  | 0, _ => failure
  | fuel + 1, expression => do
    if ← ahead (isGroup .paren) then
      let arguments ← group .paren (expressionList g)
      trailersFuel g fuel ⟨.other, expression.tokens ++ arguments⟩
    else if expression.kind ≠ .range && (← ahead isDot) then
      let dot ← symbol "."
      let selected ← selection g
      trailersFuel g fuel ⟨.other, expression.tokens ++ dot ++ selected⟩
    else if ← ahead (isGroup .bracket) then
      let position ← group .bracket (anyExpression g)
      trailersFuel g fuel ⟨.other, expression.tokens ++ position⟩
    else if expression.kind ≠ .range && (← ahead (isSymbol "?")) then
      let mark ← symbol "?"
      trailersFuel g fuel ⟨.other, expression.tokens ++ mark⟩
    else
      return expression

/-- An expression with what stands behind it. -/
def withTrailers (g : Grammar) (expression : Expression) : Parser Expression :=
  fun tokens ↦ trailersFuel g (tokens.length + 1) expression tokens

/-! ## The rules -/

/-- A reference to a value, or its address. -/
def referenceExpression (g : Grammar) (allowStruct : Bool) : Parser (List Token) := do
  let mark ← symbol "&"
  let isRaw ← ahead fun tokens ↦ isWord "raw" tokens && second (isWordOf ["mut", "const"]) tokens
  let raw ← if isRaw then word "raw" else pure []
  let access ← word? "mut"
  let constancy ← if isRaw && access.isEmpty then word "const" else pure []
  return mark ++ raw ++ access ++ constancy ++ (← g.unary allowStruct).tokens

/-- The rule of expressions without infix operators outside. A range has no attributes. -/
def unaryRule (g : Grammar) (allowStruct : Bool) : Parser Expression := do
  let attrs ← outerTokens g
  if ← ahead (isSymbol "&") then
    return ⟨.other, attrs ++ (← referenceExpression g allowStruct)⟩
  else if ← ahead (anyOf [isSymbol "*", isSymbol "!", isSymbol "-"]) then
    let mark ← if ← ahead (isSymbol "*") then symbol "*"
      else if ← ahead (isSymbol "!") then symbol "!"
      else symbol "-"
    return ⟨.other, attrs ++ mark ++ (← g.unary allowStruct).tokens⟩
  else
    let expression ← withTrailers g (← atom g allowStruct)
    if !attrs.isEmpty && expression.kind = .range then failure
    else return ⟨expression.kind, attrs ++ expression.tokens⟩

/-- The rule of expressions. -/
def expressionRule (g : Grammar) (allowStruct : Bool) : Parser Expression := do
  withOperators g allowStruct (← unaryRule g allowStruct)

/-- The rule of expressions at the beginning of a statement or behind the arrow of a case. -/
def leadingRule (g : Grammar) : Parser Expression := do
  let attrs ← outerTokens g
  match ← blockExpression? g with
  | some tokens =>
    let alone : Expression := ⟨.block, attrs ++ tokens⟩
    if ← ahead (anyOf [isDot, isSymbol "?"]) then
      withOperators g true (← withTrailers g alone)
    else
      return alone
  | none =>
    let first ← unaryRule g true
    withOperators g true ⟨first.kind, attrs ++ first.tokens⟩

end EndpointGuard.Source
