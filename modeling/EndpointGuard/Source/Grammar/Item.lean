import EndpointGuard.Source.Grammar.Expression
import EndpointGuard.Source.Grammar.ImplBlock

/-!
# Items among statements

Functions, types, traits, modules and other items that stand in the body of a function. An item
without a written form of its own is answered as nothing and stays as it stood.
-/

namespace EndpointGuard.Source

open Source.Parser

/-! ## Imports -/

/-- A name in an import: an identifier or a word that stands for a module. -/
def isImportName : Ahead :=
  anyOf [isName, isWordOf ["self", "super", "crate", "try"]]

/-- A tree of imported names, nested at most `depth` times. -/
def importTree : Nat → Parser (List Token)
  | 0 => failure
  | depth + 1 => do
    if ← ahead isImportName then
      let name ← anyWord
      if ← ahead (isSymbol "::") then
        let mark ← symbol "::"
        return .ident name :: (mark ++ (← importTree depth))
      else if ← ahead (isWord "as") then
        let mark ← word "as"
        return .ident name :: (mark ++ (← nameOrBlank))
      else
        return [.ident name]
    else if ← ahead (isSymbol "*") then
      symbol "*"
    else
      group .brace (commaSeparated atEnd (do
        let lead ← symbol? "::"
        return lead ++ (← importTree depth)))

/-- An import. -/
def importItem : Parser (List Token) := do
  let mark ← word "use"
  let lead ← symbol? "::"
  let tree ← fun tokens ↦ importTree (Token.countList tokens + 1) tokens
  return mark ++ lead ++ tree ++ (← symbol ";")

/-- The import of a crate. -/
def crateImport : Parser (List Token) := do
  let mark ← word "extern"
  let crate ← word "crate"
  let name ← if ← ahead (isWord "self") then word "self" else nameToken
  let rename ← when (isWord "as") (do
    let mark ← word "as"
    return mark ++ (← nameOrBlank))
  return mark ++ crate ++ name ++ rename ++ (← symbol ";")

/-! ## Data types -/

/-- A named field of a data type. -/
def namedField (g : Grammar) : Parser (List Token) := do
  let attrs ← outerTokens g
  let visibility ← visibility
  let name ← nameOrBlank
  let colon ← symbol ":"
  return attrs ++ visibility.tokens ++ name ++ colon ++ (← g.type true).tokens

/-- A field of a data type without a name. -/
def unnamedField (g : Grammar) : Parser (List Token) := do
  let attrs ← outerTokens g
  let visibility ← visibility
  return attrs ++ visibility.tokens ++ (← g.type true).tokens

/-- Named fields in braces. -/
def namedFields (g : Grammar) : Parser (List Token) :=
  group .brace (commaSeparated atEnd (namedField g))

/-- Fields without names in parentheses. -/
def unnamedFields (g : Grammar) : Parser (List Token) :=
  group .paren (commaSeparated atEnd (unnamedField g))

/-- The word for a kind of type, its name and its parameters. -/
def typeHead (g : Grammar) (text : String) : Parser (List Token) := do
  let mark ← word text
  let name ← nameToken
  return mark ++ name ++ (← parameters g).withDefaults

/-- A structure: with named fields, with fields in parentheses, or with none. -/
def structureType (g : Grammar) : Parser (List Token) := do
  let head ← typeHead g "struct"
  if ← ahead (isGroup .paren) then
    let fields ← unnamedFields g
    let conditions ← conditions? g
    return head ++ fields ++ conditions ++ (← symbol ";")
  else
    let conditions ← conditions? g
    let body ← if ← ahead (isGroup .brace) then namedFields g else symbol ";"
    return head ++ conditions ++ body

/-- A case of an enumeration. Who may see it is not written. -/
def enumerationCase (g : Grammar) : Parser (List Token) := do
  let attrs ← outerTokens g
  let _ ← visibility
  let name ← nameToken
  let fields ←
    if ← ahead (isGroup .brace) then namedFields g
    else if ← ahead (isGroup .paren) then unnamedFields g
    else pure []
  return attrs ++ name ++ fields ++ (← value? g)

/-- An enumeration. -/
def enumerationType (g : Grammar) : Parser (List Token) := do
  let head ← typeHead g "enum"
  let conditions ← conditions? g
  return head ++ conditions ++ (← group .brace (commaSeparated atEnd (enumerationCase g)))

/-- A union of fields. -/
def unionType (g : Grammar) : Parser (List Token) := do
  let head ← typeHead g "union"
  let conditions ← conditions? g
  return head ++ conditions ++ (← namedFields g)

/-- A name for a type, with its conditions in front of the value. -/
def typeAlias (g : Grammar) : Parser (Option (List Token)) := do
  let head ← typeHead g "type"
  let bounds ← typeBounds? g
  let conditions ← conditions? g
  let value ← typeValue? g
  let semicolon ← symbol ";"
  if !bounds.isEmpty || value.isEmpty then return none
  else return some (head ++ conditions ++ value ++ semicolon)

/-! ## Functions and values -/

/-- The body of a function. -/
def functionBody (g : Grammar) : Parser (List Token) :=
  blockWithAttributes g

/-- A function. -/
def function (g : Grammar) : Parser (Option (List Token)) := do
  let signature ← signature g
  if ← ahead (isSymbol ";") then
    let _ ← symbol ";"
    return none
  else
    return some (signature.tokens ++ (← functionBody g))

/-- A static value. -/
def staticValue (g : Grammar) : Parser (Option (List Token)) := do
  let mark ← word "static"
  let access ← word? "mut"
  let name ← nameToken
  let type ← when (isSymbol ":") (do
    let colon ← symbol ":"
    return colon ++ (← g.type true).tokens)
  let value ← value? g
  let semicolon ← symbol ";"
  if type.isEmpty && value.isEmpty then failure
  else if type.isEmpty || value.isEmpty then return none
  else return some (mark ++ access ++ name ++ type ++ value ++ semicolon)

/-! ## Traits and modules -/

/-- A constant of a trait, perhaps without a value. -/
def traitConstant (g : Grammar) : Parser (List Token) := do
  let mark ← word "const"
  let name ← nameOrBlank
  let generics ← parameters g
  let colon ← symbol ":"
  let type ← g.type true
  let value ← value? g
  let conditions ← conditions? g
  return mark ++ name ++ generics.withDefaults ++ colon ++ type.tokens ++ value ++ conditions ++
    (← symbol ";")

/-- A type of a trait, perhaps with bounds and a value. -/
def traitType (g : Grammar) : Parser (List Token) := do
  let head ← typeHead g "type"
  let bounds ← typeBounds? g
  let value ← typeValue? g
  let conditions ← conditions? g
  return head ++ bounds ++ value ++ conditions ++ (← symbol ";")

/-- An item of a trait. -/
def traitItem (g : Grammar) : Parser (List Token) := do
  let attrs ← outerTokens g
  if ← ahead isSignature then
    let signature ← signature g
    let body ← if ← ahead (isSymbol ";") then symbol ";" else functionBody g
    return attrs ++ signature.tokens ++ body
  else if ← ahead (isWord "const") then return attrs ++ (← traitConstant g)
  else if ← ahead (isWord "type") then return attrs ++ (← traitType g)
  else return attrs ++ (← macroItem)

/-- Items in braces, with attributes in front of them. -/
def itemsInBraces (g : Grammar) (one : Parser (List Token)) : Parser (List Token) :=
  group .brace do
    let attrs ← innerTokens g
    return attrs ++ (← many (fun tokens ↦ !atEnd tokens) one)

/-- A trait. -/
def traitDefinition (g : Grammar) : Parser (List Token) := do
  let safety ← word? "unsafe"
  let head ← typeHead g "trait"
  let bounds ← when (isSymbol ":") (do
    let colon ← symbol ":"
    let bounds ← separated (anyOf [isWord "where", isGroup .brace]) "+" (bound g false)
    return if bounds.isEmpty then [] else colon ++ bounds)
  let conditions ← conditions? g
  return safety ++ head ++ bounds ++ conditions ++ (← itemsInBraces g (traitItem g))

/-- A module, with its items or without. -/
def moduleItem (g : Grammar) : Parser (List Token) := do
  let safety ← word? "unsafe"
  let mark ← word "mod"
  let name ← nameToken
  let body ← if ← ahead (isSymbol ";") then symbol ";" else itemsInBraces g g.item
  return safety ++ mark ++ name ++ body

/-- An item of a block of foreign functions. -/
def foreignItem (g : Grammar) : Parser (List Token) := do
  let attrs ← outerTokens g
  let visibility ← visibility
  let front := attrs ++ visibility.tokens
  if ← ahead isSignature then
    let signature ← signature g
    return front ++ signature.tokens ++ (← symbol ";")
  else if ← ahead (isWord "static") then
    let mark ← word "static"
    let access ← word? "mut"
    let name ← nameToken
    let colon ← symbol ":"
    let type ← g.type true
    return front ++ mark ++ access ++ name ++ colon ++ type.tokens ++ (← symbol ";")
  else if ← ahead (isWord "type") then
    let head ← typeHead g "type"
    return front ++ head ++ (← symbol ";")
  else
    return front ++ (← macroItem)

/-- A block of foreign functions and values. -/
def foreignBlock (g : Grammar) : Parser (List Token) := do
  let safety ← word? "unsafe"
  let convention ← callingConvention?
  return safety ++ convention ++ (← itemsInBraces g (foreignItem g))

/-- The call of a macro as an item, perhaps with a name for what it defines. -/
def macroDefinition : Parser (List Token) := do
  let path ← modPath
  let mark ← symbol "!"
  let name ← when (anyOf [isName, isWord "try"]) (do return [.ident (← anyWord)])
  let braces ← ahead (isGroup .brace)
  let arguments ← anyGroup
  let semicolon ← if braces then pure [] else symbol ";"
  return path ++ mark ++ name ++ arguments ++ semicolon

/-! ## The rule -/

/-- One word comes next, and another behind it. -/
def isWordPair (first : String) (others : List String) : Ahead :=
  fun tokens ↦ isWord first tokens && second (isWordOf others) tokens

/-- An item behind its attributes and who may see it. -/
def itemKind (g : Grammar) (isInherited : Bool) : Parser (Option (List Token)) := do
  if ← ahead isSignature then function g
  else if ← ahead (isWordPair "extern" ["crate"]) then return some (← crateImport)
  else if ← ahead (anyOf [isWord "extern", isWordPair "unsafe" ["extern"]]) then
    return some (← foreignBlock g)
  else if ← ahead (isWord "use") then return some (← importItem)
  else if ← ahead (isWord "static") then staticValue g
  else if ← ahead (isWord "const") then constant g
  else if ← ahead (anyOf [isWord "mod", isWordPair "unsafe" ["mod"]]) then
    return some (← moduleItem g)
  else if ← ahead (isWord "type") then typeAlias g
  else if ← ahead (isWord "struct") then return some (← structureType g)
  else if ← ahead (isWord "enum") then return some (← enumerationType g)
  else if ← ahead (fun tokens ↦ isWord "union" tokens && second isName tokens) then
    return some (← unionType g)
  else if ← ahead (anyOf [isWord "trait", isWordPair "unsafe" ["trait"]]) then
    return some (← traitDefinition g)
  else if !isInherited then failure
  else if ← ahead (isWordOf ["impl", "default", "unsafe"]) then return some (← implBlock g).tokens
  else return some (← macroDefinition)

/-- An item behind its attributes. -/
def itemForm (g : Grammar) : Parser (Option (List Token)) := do
  let visibility ← visibility
  let written ← itemKind g visibility.isInherited
  return written.map fun tokens ↦ visibility.tokens ++ tokens

/-- The rule of items. -/
def itemRule (g : Grammar) : Parser (List Token) := do
  let (written, source) ← withSource do
    let attrs ← outerTokens g
    return (← itemForm g).map fun tokens ↦ attrs ++ tokens
  return written.getD source

end EndpointGuard.Source
