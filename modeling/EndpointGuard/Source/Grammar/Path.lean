import EndpointGuard.Source.Grammar

/-!
# Paths, attributes and blocks

The rules that types, patterns and expressions share: paths with generic arguments, attributes with
their arguments, and the braces around statements.
-/

namespace EndpointGuard.Source

open Source.Parser

/-- The words that may begin a path beside identifiers. -/
def pathWords : List String :=
  ["super", "self", "Self", "crate"]

/-- A segment of a path without arguments comes next. -/
def isPathWord : Ahead :=
  anyOf [isName, isWordOf pathWords]

/-- Segments without arguments, at most `fuel` of them; a separator needs a segment behind it. -/
def modSegments : Nat → Parser (List Token)
  | 0 => failure
  | fuel + 1 => do
    if ← ahead isPathWord then
      let segment ← anyWord
      if ← ahead (isSymbol "::") then
        let mark ← symbol "::"
        let more ← modSegments fuel
        return .ident segment :: (mark ++ more)
      else
        return [.ident segment]
    else
      failure

/-- A path whose segments have no arguments. -/
def modPath : Parser (List Token) := do
  let lead ← symbol? "::"
  let segments ← fun tokens ↦ modSegments (tokens.length + 1) tokens
  return lead ++ segments

/-! ## Attributes -/

/-- What stands behind the path of an attribute: nothing, arguments in a group as they stand, or a
value. -/
inductive AttributeInput where
  | nothing
  | arguments (delimiter : Delimiter) (tokens : List Token)
  | value (tokens : List Token)

/-- An attribute. An inner one stands in the braces of what it belongs to. -/
structure Attribute where
  inner : Bool
  path : List Token
  input : AttributeInput

namespace Attribute

/-- The name of an attribute whose path is a single name. -/
def name? (attr : Attribute) : Option String :=
  match attr.path with
  | [.ident name] => some name
  | _ => none

/-- What stands between the brackets of an attribute. -/
def content (attr : Attribute) : List Token :=
  attr.path ++
  match attr.input with
  | .nothing => []
  | .arguments delimiter tokens => [.group delimiter tokens]
  | .value tokens => .punct '=' false :: tokens

/-- An attribute as it is written. -/
def tokens (attr : Attribute) : List Token :=
  .punct '#' false :: ((if attr.inner then [.punct '!' false] else []) ++
    [.group .bracket attr.content])

end Attribute

/-- The value behind the equals sign of an attribute: a literal or another expression. -/
def attributeValue (g : Grammar) : Parser (List Token) := do
  let alone ← attempt (do
    let value ← literal
    if ← ahead atEnd then pure value else failure)
  if alone.isSome then literal
  else if ← ahead (fun tokens ↦ isSymbol "#" tokens && second (isGroup .bracket) tokens) then
    failure
  else return (← g.expression true).tokens

/-- What stands between the brackets of an attribute. -/
def attributeContent (g : Grammar) (inner : Bool) : Parser Attribute := do
  let path ← if ← ahead (isWord "unsafe") then word "unsafe" else modPath
  match ← get with
  | .group delimiter tokens :: rest =>
    set rest
    return ⟨inner, path, .arguments delimiter tokens⟩
  | _ =>
    if ← ahead (isSymbol "=") then
      let _ ← symbol "="
      return ⟨inner, path, .value (← attributeValue g)⟩
    else
      return ⟨inner, path, .nothing⟩

/-- An attribute in front of what it belongs to. -/
def outerAttribute (g : Grammar) : Parser Attribute := do
  let _ ← symbol "#"
  inside .bracket (attributeContent g false)

/-- An attribute inside of what it belongs to. -/
def innerAttribute (g : Grammar) : Parser Attribute := do
  let _ ← symbol "#"
  let _ ← symbol "!"
  inside .bracket (attributeContent g true)

/-- Attributes while a test holds, at most `fuel` of them. -/
def attributesFuel (test : Ahead) (one : Parser Attribute) : Nat → Parser (List Attribute)
  | 0 => pure []
  | fuel + 1 => do
    if ← ahead test then
      let first ← one
      let more ← attributesFuel test one fuel
      return first :: more
    else
      return []

/-- The attributes in front of something. -/
def outerAttributes (g : Grammar) : Parser (List Attribute) :=
  fun tokens ↦ attributesFuel (isSymbol "#") (outerAttribute g) (tokens.length + 1) tokens

/-- The attributes at the beginning of a group. -/
def innerAttributes (g : Grammar) : Parser (List Attribute) :=
  fun tokens ↦
    attributesFuel (fun tokens ↦ isSymbol "#" tokens && second (isSymbol "!") tokens)
      (innerAttribute g) (tokens.length + 1) tokens

/-- The attributes in front of something, as they are written. -/
def outerTokens (g : Grammar) : Parser (List Token) := do
  return (← outerAttributes g).flatMap Attribute.tokens

/-- The attributes at the beginning of a group, as they are written. -/
def innerTokens (g : Grammar) : Parser (List Token) := do
  return (← innerAttributes g).flatMap Attribute.tokens

/-! ## Blocks -/

/-- Statements in braces. -/
def block (g : Grammar) : Parser (List Token) :=
  group .brace g.statements

/-- Statements in braces, with attributes in front of them. -/
def blockWithAttributes (g : Grammar) : Parser (List Token) :=
  group .brace do
    let attrs ← innerTokens g
    let statements ← g.statements
    return attrs ++ statements

/-! ## Generic arguments -/

/-- A constant as a generic argument: a literal, a name or a block. -/
def constantArgument (g : Grammar) : Parser (List Token) := do
  if ← ahead isLiteral then literal
  else if ← ahead isName then nameToken
  else blockWithAttributes g

/-- Items of which the lifetimes are written first. -/
def lifetimesFirst (items : List ((Bool × List Token) × List Token)) : List Token :=
  let write (items : List ((Bool × List Token) × List Token)) : List Token :=
    items.flatMap fun ((_, tokens), comma) ↦ tokens ++ comma
  let lifetimes := items.filter fun item ↦ item.1.1
  let others := items.filter fun item ↦ !item.1.1
  let gap :=
    match lifetimes.getLast? with
    | some (_, []) => if others.isEmpty then [] else Token.symbol ","
    | _ => []
  write lifetimes ++ gap ++ write others

/-- The bound `for` with lifetimes. -/
def boundLifetimes (g : Grammar) (parameter : Grammar → Parser (Bool × List Token)) :
    Parser (List Token) := do
  let mark ← word "for"
  let opening ← symbol "<"
  let parameters ← items (isSymbol ">") (parameter g)
  let closing ← symbol ">"
  let written := parameters.flatMap fun ((_, tokens), comma) ↦ tokens ++ comma
  return mark ++ opening ++ written ++ closing

/-- A path as it is written, with what is known about it. `bare` tells that its last segment has no
arguments, `plain` that no segment has any, and `parenthesized` that the last one has arguments in
parentheses. -/
structure PathForm where
  tokens : List Token
  last : String
  segments : Nat
  leading : Bool
  bare : Bool
  plain : Bool
  parenthesized : Bool

/-- The result type of a function, if it has one. -/
def returnType (g : Grammar) (bounds : Bool) : Parser (List Token) := do
  if ← ahead (isSymbol "->") then
    let arrow ← symbol "->"
    let result ← g.type bounds
    return arrow ++ result.tokens
  else
    return []

/-- Arguments in parentheses, with a result type. -/
def parenthesizedArguments (g : Grammar) : Parser (List Token) := do
  let inputs ← group .paren (commaSeparated atEnd (do return (← g.type true).tokens))
  let output ← returnType g false
  return inputs ++ output

/-- Arguments in parentheses come next, perhaps behind a separator. -/
def isParenthesized : Ahead :=
  anyOf [isGroup .paren, fun tokens ↦ isSymbol "::" tokens && third (isGroup .paren) tokens]

/-- The path with arguments in parentheses, if there are any and it may have them. -/
def withParenthesized (g : Grammar) (path : PathForm) : Parser PathForm := do
  if path.bare && (← ahead isParenthesized) then
    let _ ← symbol? "::"
    let arguments ← parenthesizedArguments g
    return { path with
      tokens := path.tokens ++ arguments
      bare := false
      plain := false
      parenthesized := true }
  else
    return path

/-- The rules of bounds and arguments, which need one another. -/
structure PathRules where
  bound : Bool → Parser (List Token)
  arguments : Parser (List Token)

/-- A segment of a path with its arguments, which in an expression stand behind a separator. -/
def segment (arguments : Parser (List Token)) (inExpression : Bool) :
    Parser (String × List Token) := do
  if ← ahead (isWordOf ["super", "self", "crate", "try"]) then
    return (← anyWord, [])
  else
    let name ← if ← ahead (isWord "Self") then anyWord else name
    let inType := fun tokens ↦ !inExpression && isSymbolBut "<" "<=" tokens
    let inBoth := fun tokens ↦ isSymbol "::" tokens && third (isSymbol "<") tokens
    if ← ahead (anyOf [inType, inBoth]) then
      let mark ← symbol? "::"
      return (name, mark ++ (← arguments))
    else
      return (name, [])

/-- The further segments of a path, at most `fuel` of them. -/
def moreSegments (arguments : Parser (List Token)) (inExpression : Bool) (goesOn : Ahead) :
    Nat → PathForm → Parser PathForm
  | 0, path => pure path
  | fuel + 1, path => do
    if ← ahead goesOn then
      let mark ← symbol "::"
      let (name, arguments') ← segment arguments inExpression
      moreSegments arguments inExpression goesOn fuel
        { path with
          tokens := path.tokens ++ mark ++ .ident name :: arguments'
          last := name
          segments := path.segments + 1
          bare := arguments'.isEmpty
          plain := path.plain && arguments'.isEmpty }
    else
      return path

/-- A path from its first segment on. -/
def pathFrom (arguments : Parser (List Token)) (inExpression : Bool) (goesOn : Ahead) :
    Parser PathForm := do
  let (name, arguments') ← segment arguments inExpression
  let first : PathForm := {
    tokens := .ident name :: arguments'
    last := name
    segments := 1
    leading := false
    bare := arguments'.isEmpty
    plain := arguments'.isEmpty
    parenthesized := false }
  fun tokens ↦
    moreSegments arguments inExpression goesOn (tokens.length + 1) first tokens

/-- Another segment comes next, and no arguments in parentheses. -/
def pathGoesOn : Ahead :=
  fun tokens ↦ isSymbol "::" tokens && !third (isGroup .paren) tokens

/-- A path. -/
def pathWith (arguments : Parser (List Token)) (inExpression : Bool) : Parser PathForm := do
  let lead ← symbol? "::"
  let path ← pathFrom arguments inExpression pathGoesOn
  return { path with tokens := lead ++ path.tokens, leading := !lead.isEmpty }

/-- A parameter of a list of lifetimes: a lifetime with its bounds, or a name. -/
def lifetimeParameter (g : Grammar) : Parser (Bool × List Token) := do
  let attrs ← outerTokens g
  if ← ahead isLifetime then
    let parameter ← lifetime
    if ← ahead (isSymbol ":") then
      let colon ← symbol ":"
      let bounds ← separated (anyOf [atEnd, isSymbol ",", isSymbol ">"]) "+" lifetime
      let bounds := if bounds.isEmpty then [] else colon ++ bounds
      return (true, attrs ++ parameter ++ bounds)
    else
      return (true, attrs ++ parameter)
  else
    return (false, attrs ++ (← nameToken))

/-- A bound by a trait, the lifetimes in front of it and its marks included. -/
def traitBound (g : Grammar) (arguments : Parser (List Token)) : Parser (List Token) := do
  let lifetimes ← when (isWord "for") (boundLifetimes g lifetimeParameter)
  let constant ← when (fun tokens ↦ isSymbol "~" tokens && second (isWord "const") tokens) (do
    let mark ← symbol "~"
    let word ← word "const"
    return mark ++ word)
  let mark ← symbol? "?"
  let late ← when (fun tokens ↦ lifetimes.isEmpty && !mark.isEmpty && isWord "for" tokens)
    (boundLifetimes g lifetimeParameter)
  let path ← pathWith arguments false
  let path ← withParenthesized g path
  return (if mark.isEmpty then lifetimes ++ constant else lifetimes ++ constant ++ mark ++ late) ++
    path.tokens

/-- What a hidden type captures. -/
def capture : Parser (List Token) := do
  let mark ← word "use"
  let opening ← symbol "<"
  let captured ← commaSeparated (isSymbol ">") (do
    if ← ahead isLifetime then lifetime
    else if ← ahead (isWord "Self") then word "Self"
    else nameToken)
  let closing ← symbol ">"
  return mark ++ opening ++ captured ++ closing

/-- A bound: a lifetime, a trait, or a trait in parentheses. -/
def boundWith (g : Grammar) (arguments : Parser (List Token)) (capturing : Bool) :
    Parser (List Token) := do
  if ← ahead isLifetime then lifetime
  else if capturing && (← ahead (isWord "use")) then capture
  else if ← ahead (isGroup .paren) then group .paren (traitBound g arguments)
  else traitBound g arguments

/-- A type that stands for a single name comes with an equals sign or a colon behind it. -/
def bindable (kind : TypeKind) : Bool :=
  match kind with
  | .path _ plain => plain
  | _ => false

/-- A generic argument, and whether it is a lifetime. -/
def genericArgument (g : Grammar) (bound : Parser (List Token)) : Parser (Bool × List Token) := do
  if ← ahead (fun tokens ↦ isLifetime tokens && !second (isSymbol "+") tokens) then
    return (true, ← lifetime)
  else if ← ahead (anyOf [isLiteral, isGroup .brace]) then
    return (false, ← constantArgument g)
  else
    let type ← g.type true
    if bindable type.kind && (← ahead (isSymbol "=")) then
      let mark ← symbol "="
      if ← ahead (anyOf [isLiteral, isGroup .brace]) then
        return (false, type.tokens ++ mark ++ (← constantArgument g))
      else
        return (false, type.tokens ++ mark ++ (← g.type true).tokens)
    else if bindable type.kind && (← ahead (isSymbol ":")) then
      let mark ← symbol ":"
      let bounds ← separated (anyOf [isSymbol ",", isSymbol ">"]) "+" bound
      return (false, type.tokens ++ mark ++ bounds)
    else
      return (false, type.tokens)

/-- Generic arguments in angle brackets around what `argument` reads. -/
def angleArguments (argument : Parser (Bool × List Token)) : Parser (List Token) := do
  let opening ← symbol "<"
  let arguments ← items (isSymbol ">") argument
  let closing ← symbol ">"
  return opening ++ lifetimesFirst arguments ++ closing

/-- The rules of bounds and arguments, nested at most `depth` times in one another. -/
def pathRules (g : Grammar) : Nat → PathRules
  | 0 => ⟨fun _ ↦ failure, failure⟩
  | depth + 1 =>
    let inner := pathRules g depth
    { bound := boundWith g inner.arguments
      arguments := angleArguments (genericArgument g (inner.bound false)) }

/-- Generic arguments in angle brackets. -/
def genericArguments (g : Grammar) : Parser (List Token) :=
  fun tokens ↦ (pathRules g (Token.countList tokens + 1)).arguments tokens

/-- A bound of a type. -/
def bound (g : Grammar) (capturing : Bool) : Parser (List Token) :=
  boundWith g (genericArguments g) capturing

/-- A path with generic arguments. -/
def path (g : Grammar) (inExpression : Bool) : Parser PathForm :=
  pathWith (genericArguments g) inExpression

/-- A path with an optional qualifier in angle brackets, and whether it has one. -/
def qualifiedPath (g : Grammar) (inExpression : Bool) : Parser (Bool × PathForm) := do
  if ← ahead (isSymbol "<") then
    let opening ← symbol "<"
    let self ← g.type true
    let trait ← when (isWord "as") (do
      let mark ← word "as"
      let trait ← path g false
      return mark ++ trait.tokens)
    let closing ← symbol ">"
    let mark ← symbol "::"
    let rest ← pathFrom (genericArguments g) inExpression (isSymbol "::")
    return (true,
      { rest with tokens := opening ++ self.tokens ++ trait ++ closing ++ mark ++ rest.tokens })
  else
    return (false, ← path g inExpression)

end EndpointGuard.Source
