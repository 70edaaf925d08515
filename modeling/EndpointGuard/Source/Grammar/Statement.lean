import EndpointGuard.Source.Grammar.Item

/-!
# Statements

The statements of a block. An expression without a semicolon is the last statement, unless it ends
with a block of its own.
-/

namespace EndpointGuard.Source

open Source.Parser

/-! ## What a statement begins with -/

/-- The path of a macro with its mark in front of what a test holds of comes next. -/
def isMacroBefore (test : Ahead) : Ahead :=
  fun tokens ↦
    match modPath tokens with
    | some (_, rest) => isSymbol "!" rest && test (rest.drop 1)
    | none => false

/-- A macro with its arguments in braces comes next, and nothing is taken from its result. -/
def isStatementMacro : Ahead :=
  isMacroBefore fun tokens ↦
    isGroup .brace tokens && !second (anyOf [isDot, isSymbol "?"]) tokens

/-- The definition of a macro comes next. -/
def isMacroDefinition : Ahead :=
  isMacroBefore (anyOf [isName, isWord "try"])

/-- A static value comes next, and no closure. -/
def isStaticItem : Ahead :=
  fun tokens ↦ isWord "static" tokens && second (anyOf [isWord "mut", isName]) tokens

/-- A constant or a constant function comes next, and neither a block nor a closure. -/
def isConstantItem : Ahead :=
  fun tokens ↦ isWord "const" tokens &&
    !(second (anyOf [isGroup .brace, isWord "static", isWord "move", isSymbol "|"]) tokens ||
      (second (isWord "async") tokens &&
        !third (isWordOf ["unsafe", "extern", "fn"]) tokens))

/-- An item comes next. -/
def isItem : Ahead :=
  anyOf [isWordOf ["pub", "extern", "use", "fn", "mod", "type", "struct", "enum", "trait", "impl",
      "macro"],
    fun tokens ↦ isWord "crate" tokens && !second (isSymbol "::") tokens,
    isStaticItem, isConstantItem,
    fun tokens ↦ isWord "unsafe" tokens && !second (isGroup .brace) tokens,
    isWordPair "async" ["unsafe", "extern", "fn"],
    fun tokens ↦ isWord "union" tokens && second isName tokens,
    isWordPair "auto" ["trait"], isWordPair "default" ["unsafe", "impl"], isMacroDefinition]

/-! ## Kinds of statements -/

/-- A statement as it is written, and whether only the end of the block may follow. -/
structure StatementForm where
  isLast : Bool
  tokens : List Token

/-- The block of a binding for the case that its pattern does not fit. -/
def otherwise? (g : Grammar) (value : Expression) : Parser (List Token) :=
  when (fun tokens ↦ !value.endsInBrace && isWord "else" tokens) do
    let mark ← word "else"
    return mark ++ (← block g)

/-- The binding of a pattern. -/
def binding (g : Grammar) : Parser (List Token) := do
  let mark ← word "let"
  let pattern ← g.pattern
  let type ← when (isSymbol ":") (do
    let colon ← symbol ":"
    return colon ++ (← g.type true).tokens)
  let value ← when (isSymbol "=") (do
    let equals ← symbol "="
    let value ← g.expression true
    return equals ++ value.tokens ++ (← otherwise? g value))
  return mark ++ pattern.tokens ++ type ++ value ++ (← symbol ";")

/-- A macro with its arguments in braces as a statement. -/
def statementMacro : Parser (List Token) := do
  let path ← modPath
  let arguments ← macroArguments
  return path ++ arguments ++ (← symbol? ";")

/-- An expression as a statement. -/
def expressionStatement (g : Grammar) : Parser StatementForm := do
  let expression ← leadingRule g
  let semicolon ← symbol? ";"
  let complete :=
    match expression.kind with
    | .block | .macroCall true => true
    | _ => !semicolon.isEmpty
  return ⟨!complete, expression.tokens ++ semicolon⟩

/-- A statement. -/
def statement (g : Grammar) : Parser StatementForm := do
  let start ← attempt do
    let _ ← outerAttributes g
    get
  let rest := start.getD []
  if isItem rest && !isStatementMacro rest && !isWord "let" rest then
    return ⟨false, ← itemRule g⟩
  else
    let attrs ← outerTokens g
    if ← ahead isStatementMacro then
      return ⟨false, attrs ++ (← statementMacro)⟩
    else if ← ahead (isWord "let") then
      return ⟨false, attrs ++ (← binding g)⟩
    else
      let form ← expressionStatement g
      return ⟨form.isLast, attrs ++ form.tokens⟩

/-! ## Blocks -/

/-- The statements of a block, at most `fuel` of them. -/
def statementsFuel (g : Grammar) : Nat → Parser (List Token)
  | 0 => failure
  | fuel + 1 => do
    let semicolons ← many (isSymbol ";") (symbol ";")
    if ← ahead atEnd then
      return semicolons
    else
      let form ← statement g
      if ← ahead atEnd then return semicolons ++ form.tokens
      else if form.isLast then failure
      else
        let more ← statementsFuel g fuel
        return semicolons ++ form.tokens ++ more

/-- The rule of the statements of a block. -/
def statementsRule (g : Grammar) : Parser (List Token) :=
  fun tokens ↦ statementsFuel g (tokens.length + 1) tokens

end EndpointGuard.Source
