import EndpointGuard.Source.Grammar.Function

/-!
# Blocks of methods

A block of methods for a type, with its attributes and those of its methods apart from the rest.
Attributes inside of the braces belong to what the braces belong to. A method has a body: a
signature with a semicolon in its place, `fn f();`, stays among the other items as it stood.
-/

namespace EndpointGuard.Source

open Source.Parser

/-! ## Methods and blocks -/

/-- A function with a body in a block. -/
structure Method where
  attributes : List Attribute
  visibility : Visibility
  modifier : List Token
  signature : Signature
  body : List Token

/-- An item of a block: a method, or anything else as it is written. -/
inductive BlockItem where
  | method (method : Method)
  | other (tokens : List Token)

/-- A block of methods for a type. With a trait, `ofTrait` is what stands in front of the type. -/
structure ImplBlock where
  attributes : List Attribute
  modifiers : List Token
  generics : Generics
  ofTrait : Option (List Token)
  selfType : TypeForm
  items : List BlockItem

/-- The attributes in front of an item. -/
def outerPart (attributes : List Attribute) : List Token :=
  (attributes.filter fun attr ↦ !attr.inner).flatMap Attribute.tokens

/-- The attributes inside of the braces of an item. -/
def innerPart (attributes : List Attribute) : List Token :=
  (attributes.filter fun attr ↦ attr.inner).flatMap Attribute.tokens

/-- A method as it is written. -/
def Method.tokens (method : Method) : List Token :=
  outerPart method.attributes ++ method.visibility.tokens ++ method.modifier ++
    method.signature.tokens ++ [.group .brace (innerPart method.attributes ++ method.body)]

/-- An item of a block as it is written. -/
def BlockItem.tokens : BlockItem → List Token
  | .method m => m.tokens
  | .other written => written

/-- A block as it is written. -/
def ImplBlock.tokens (block : ImplBlock) : List Token :=
  outerPart block.attributes ++ block.modifiers ++ Token.ident "impl" ::
    (block.generics.withDefaults ++ block.ofTrait.getD [] ++ block.selfType.tokens ++
      block.generics.conditions ++
      [.group .brace (innerPart block.attributes ++ block.items.flatMap BlockItem.tokens)])

/-! ## Items that are no functions -/

/-- A value behind an equals sign, if it comes next. -/
def value? (g : Grammar) : Parser (List Token) :=
  when (isSymbol "=") do
    let equals ← symbol "="
    return equals ++ (← g.expression true).tokens

/-- A constant. One without a value, or with parameters or conditions, has no written form of its
own. -/
def constant (g : Grammar) : Parser (Option (List Token)) := do
  let mark ← word "const"
  let name ← nameOrBlank
  let isGeneric ← ahead (isSymbol "<")
  let _ ← parameters g
  let colon ← symbol ":"
  let type ← g.type true
  let value ← value? g
  let isConditional ← ahead (isWord "where")
  let _ ← conditions? g
  let semicolon ← symbol ";"
  if isGeneric || isConditional || value.isEmpty then return none
  else return some (mark ++ name ++ colon ++ type.tokens ++ value ++ semicolon)

/-- The end of the bounds of a type. -/
def isTypeBoundsEnd : Ahead :=
  anyOf [isWord "where", isSymbol "=", isSymbol ";"]

/-- The bounds of a type behind a colon, if they come next. -/
def typeBounds? (g : Grammar) : Parser (List Token) :=
  when (isSymbol ":") do
    let colon ← symbol ":"
    return colon ++ (← separated isTypeBoundsEnd "+" (bound g false))

/-- A type behind an equals sign, if it comes next. -/
def typeValue? (g : Grammar) : Parser (List Token) :=
  when (isSymbol "=") do
    let equals ← symbol "="
    return equals ++ (← g.type true).tokens

/-- A name for a type. One with bounds or without a value has no written form of its own. -/
def associatedType (g : Grammar) : Parser (Option (List Token)) := do
  let mark ← word "type"
  let name ← nameToken
  let generics ← parameters g
  let bounds ← typeBounds? g
  let value ← typeValue? g
  let conditions ← conditions? g
  let semicolon ← symbol ";"
  if !bounds.isEmpty || value.isEmpty then return none
  else return some (mark ++ name ++ generics.withDefaults ++ value ++ conditions ++ semicolon)

/-- The call of a macro as an item. A semicolon ends it unless braces do. -/
def macroItem : Parser (List Token) := do
  let path ← modPath
  let braces ← ahead (second (isGroup .brace))
  let arguments ← macroArguments
  let semicolon ← if braces then pure [] else symbol ";"
  return path ++ arguments ++ semicolon

/-- The path of a macro comes next. -/
def isMacroPath : Ahead :=
  anyOf [isName, isWordOf ["self", "super", "crate"], isSymbol "::"]

/-! ## Reading -/

/-- An item of a block. What has no written form of its own is nothing. -/
def blockItemForm (g : Grammar) : Parser (Option BlockItem) := do
  let attributes ← outerAttributes g
  let visibility ← visibility
  let isModified ← ahead fun tokens ↦ isWord "default" tokens && !second (isSymbol "!") tokens
  let modifier ← if isModified then word "default" else pure []
  let front := attributes.flatMap Attribute.tokens ++ visibility.tokens ++ modifier
  if ← ahead isSignature then
    let signature ← signature g
    if ← ahead (isSymbol ";") then
      let _ ← symbol ";"
      return none
    else
      let (inner, body) ← inside .brace (do
        let attrs ← innerAttributes g
        return (attrs, ← g.statements))
      return some (.method ⟨attributes ++ inner, visibility, modifier, signature, body⟩)
  else if ← ahead (isWord "const") then
    return (← constant g).map fun tokens ↦ .other (front ++ tokens)
  else if ← ahead (isWord "type") then
    return (← associatedType g).map fun tokens ↦ .other (front ++ tokens)
  else if visibility.isInherited && !isModified && (← ahead isMacroPath) then
    return some (.other (front ++ (← macroItem)))
  else
    failure

/-- An item of a block. What has no written form of its own stays as it stood. -/
def blockItem (g : Grammar) : Parser BlockItem := do
  let (item, source) ← withSource (blockItemForm g)
  return item.getD (.other source)

/-- Items of a block, at most `fuel` of them. -/
def blockItems (g : Grammar) : Nat → Parser (List BlockItem)
  | 0 => failure
  | fuel + 1 => do
    if ← ahead atEnd then
      return []
    else
      let first ← blockItem g
      let more ← blockItems g fuel
      return first :: more

/-- What stands in the braces of a block: attributes and items. -/
def blockContent (g : Grammar) : Parser (List Attribute × List BlockItem) := do
  let attributes ← innerAttributes g
  let items ← fun tokens ↦ blockItems g (tokens.length + 1) tokens
  return (attributes, items)

/-- The trait and the type of a block. Only a path names a trait. Without a trait, a mark in front
of the type makes it another type. -/
def blockSubject (g : Grammar) : Parser (Option (List Token) × TypeForm) := do
  let isNegative ← ahead fun tokens ↦ isSymbol "!" tokens && !second (isGroup .brace) tokens
  let polarity ← if isNegative then symbol "!" else pure []
  let first ← g.type true
  if ← ahead (isWord "for") then
    match first.kind with
    | .path _ _ =>
      let mark ← word "for"
      return (some (polarity ++ first.tokens ++ mark), ← g.type true)
    | _ => failure
  else if isNegative then
    return (none, ⟨.other, polarity ++ first.tokens⟩)
  else
    return (none, first)

/-- A block of methods for a type. -/
def implBlock (g : Grammar) : Parser ImplBlock := do
  let outer ← outerAttributes g
  let modifier ← word? "default"
  let safety ← word? "unsafe"
  let _ ← word "impl"
  let generics ← if ← ahead isParameters then parameters g else pure .none
  let (ofTrait, selfType) ← blockSubject g
  let conditions ← conditions? g
  let (inner, items) ← inside .brace (blockContent g)
  return {
    attributes := outer ++ inner
    modifiers := modifier ++ safety
    generics := { generics with conditions := conditions }
    ofTrait := ofTrait
    selfType := selfType
    items := items }

end EndpointGuard.Source
