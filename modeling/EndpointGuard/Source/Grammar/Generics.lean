import EndpointGuard.Source.Grammar.Type

/-!
# Generic parameters

The parameters of functions, types and blocks, and the conditions on them. A block written anew for
the same parameters leaves out their defaults.
-/

namespace EndpointGuard.Source

open Source.Parser

/-! ## Parameters -/

/-- A generic parameter, with its default apart. -/
structure GenericParameter where
  isLifetime : Bool
  tokens : List Token
  fallback : List Token

/-- Generic parameters, each with the comma behind it if there is one, and the conditions on
them. -/
structure Generics where
  parameters : List (GenericParameter × List Token)
  conditions : List Token

namespace Generics

/-- No parameters and no conditions. -/
def none : Generics :=
  ⟨[], []⟩

/-- Parameters in angle brackets, lifetimes first; nothing if there are none. -/
def write (parameters : List ((Bool × List Token) × List Token)) : List Token :=
  if parameters.isEmpty then []
  else Token.symbol "<" ++ lifetimesFirst parameters ++ Token.symbol ">"

/-- The parameters with their defaults. -/
def withDefaults (generics : Generics) : List Token :=
  write (generics.parameters.map fun (parameter, comma) ↦
    ((parameter.isLifetime, parameter.tokens ++ parameter.fallback), comma))

/-- The parameters without their defaults. -/
def withoutDefaults (generics : Generics) : List Token :=
  write (generics.parameters.map fun (parameter, comma) ↦
    ((parameter.isLifetime, parameter.tokens), comma))

end Generics

/-- Bounds behind a colon, up to a stop. Without a bound there is no colon either. -/
def boundsAfterColon (g : Grammar) (stop : Ahead) : Parser (List Token) :=
  when (isSymbol ":") do
    let colon ← symbol ":"
    let bounds ← separated stop "+" (bound g false)
    return if bounds.isEmpty then [] else colon ++ bounds

/-- A generic parameter. -/
def genericParameter (g : Grammar) : Parser GenericParameter := do
  let attrs ← outerTokens g
  if ← ahead isLifetime then
    let (_, tokens) ← lifetimeParameter g
    return ⟨true, attrs ++ tokens, []⟩
  else if ← ahead (isWord "const") then
    let mark ← word "const"
    let name ← nameToken
    let colon ← symbol ":"
    let type ← g.type true
    let fallback ← when (isSymbol "=") (do
      let equals ← symbol "="
      return equals ++ (← constantArgument g))
    return ⟨false, attrs ++ mark ++ name ++ colon ++ type.tokens, fallback⟩
  else if ← ahead (isWord "_") then
    return ⟨false, attrs ++ (← word "_"), []⟩
  else
    let name ← nameToken
    let bounds ← boundsAfterColon g (anyOf [isSymbol ",", isSymbol ">", isSymbol "="])
    let fallback ← when (isSymbol "=") (do
      let equals ← symbol "="
      return equals ++ (← g.type true).tokens)
    return ⟨false, attrs ++ name ++ bounds, fallback⟩

/-- Generic parameters in angle brackets. -/
def parameters (g : Grammar) : Parser Generics := do
  if ← ahead (isSymbol "<") then
    let _ ← symbol "<"
    let found ← items (isSymbol ">") (genericParameter g)
    let _ ← symbol ">"
    return ⟨found, []⟩
  else
    return .none

/-- Angle brackets with generic parameters come next, and not a qualified path. -/
def isParameters : Ahead :=
  let afterName := anyOf [isSymbol ">", isSymbol ",", isSymbolBut ":" "::", isSymbol "="]
  fun tokens ↦ isSymbol "<" tokens &&
    (second (anyOf [isSymbol ">", isSymbol "#", isWord "const"]) tokens ||
      (second (anyOf [isLifetime, isName]) tokens && third afterName tokens))

/-! ## Conditions -/

/-- The end of the conditions on generic parameters. -/
def isConditionsEnd : Ahead :=
  anyOf [atEnd, isGroup .brace, isSymbol ",", isSymbol ";", isSymbolBut ":" "::", isSymbol "="]

/-- A condition: the bounds of a lifetime or of a type. -/
def condition (g : Grammar) : Parser (List Token) := do
  if ← ahead (fun tokens ↦ isLifetime tokens && second (isSymbol ":") tokens) then
    let subject ← lifetime
    let colon ← symbol ":"
    let stop :=
      anyOf [atEnd, isGroup .brace, isSymbol ",", isSymbol ";", isSymbol ":", isSymbol "="]
    let bounds ← separated stop "+" lifetime
    return subject ++ colon ++ bounds
  else
    let lifetimes ← when (isWord "for") (boundLifetimes g lifetimeParameter)
    let subject ← g.type true
    let colon ← symbol ":"
    let bounds ← separated isConditionsEnd "+" (bound g false)
    return lifetimes ++ subject.tokens ++ colon ++ bounds

/-- The conditions on generic parameters, if they come next. Without a condition there is no word
for them either. -/
def conditions? (g : Grammar) : Parser (List Token) :=
  when (isWord "where") do
    let mark ← word "where"
    if ← ahead isParameters then failure
    let conditions ← separated isConditionsEnd "," (condition g)
    return if conditions.isEmpty then [] else mark ++ conditions

end EndpointGuard.Source
