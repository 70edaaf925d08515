import EndpointGuard.Source.Grammar.Pattern
import EndpointGuard.Source.Grammar.Generics

/-!
# Functions

Who may see an item, and the signature of a function with its name apart.
-/

namespace EndpointGuard.Source

open Source.Parser

/-! ## Visibility -/

/-- Who may see an item. Only the bare word for it makes an item public. -/
structure Visibility where
  isPublic : Bool
  tokens : List Token

namespace Visibility

/-- Nothing is written about who may see an item. -/
def isInherited (visibility : Visibility) : Bool :=
  visibility.tokens.isEmpty

end Visibility

/-- What stands in parentheses for a narrower visibility. -/
def visibilityScope : Parser (List Token) := do
  if ← ahead (isWord "in") then
    let mark ← word "in"
    return mark ++ (← modPath)
  else
    return [.ident (← anyWord)]

/-- Parentheses for a narrower visibility come next. -/
def isVisibilityScope : Ahead
  | .group .paren body :: _ =>
    isWord "in" body || (isWordOf ["crate", "self", "super"] body && body.length = 1)
  | _ => false

/-- Who may see an item. -/
def visibility : Parser Visibility := do
  if ← ahead (isWord "pub") then
    let mark ← word "pub"
    if ← ahead isVisibilityScope then
      return ⟨false, mark ++ (← group .paren visibilityScope)⟩
    else
      return ⟨true, mark⟩
  else
    return ⟨false, []⟩

/-! ## Parameters -/

/-- The parameter for the value that a method belongs to. -/
def receiver (g : Grammar) : Parser (List Token) := do
  if ← ahead (isSymbol "&") then
    let reference ← symbol "&"
    let lifetime ← lifetime?
    let access ← word? "mut"
    return reference ++ lifetime ++ access ++ (← word "self")
  else
    let access ← word? "mut"
    let self ← word "self"
    let type ← when (isSymbol ":") (do
      let colon ← symbol ":"
      return colon ++ (← g.type true).tokens)
    return access ++ self ++ type

/-- Dots for any number of further parameters. They come last. -/
def furtherParameters : Parser (List Token) := do
  let dots ← symbol "..."
  let comma ← symbol? ","
  if ← ahead atEnd then return dots ++ comma else failure

/-- A parameter of a function, and whether it is the receiver. A type with arguments may stand
without a name. -/
def functionParameter (g : Grammar) : Parser (Bool × List Token) := do
  let attrs ← outerTokens g
  if ← ahead (isSymbol "...") then
    return (false, attrs ++ (← furtherParameters))
  else if (← attempt (receiver g)).isSome then
    return (true, attrs ++ (← receiver g))
  else if ← ahead (fun tokens ↦ isName tokens && second (isSymbol "<") tokens) then
    return (false, attrs ++ [.ident "_"] ++ Token.symbol ":" ++ (← g.type true).tokens)
  else
    let pattern ← g.pattern
    let colon ← symbol ":"
    let type ← if ← ahead (isSymbol "...") then furtherParameters
      else do pure (← g.type true).tokens
    return (false, attrs ++ pattern.tokens ++ colon ++ type)

/-- The parameters of a function, and whether the first of them is the receiver. No other parameter
is one. -/
def functionParameters (g : Grammar) : Parser (Bool × List Token) := do
  let found ← items atEnd (functionParameter g)
  if found.tail.any fun ((isReceiver, _), _) ↦ isReceiver then
    failure
  else
    let hasReceiver := found.head?.any fun ((isReceiver, _), _) ↦ isReceiver
    return (hasReceiver, found.flatMap fun ((_, tokens), comma) ↦ tokens ++ comma)

/-! ## Signatures -/

/-- The signature of a function: what stands in front of its name, the name, whether it has a
receiver, and what stands behind the name. -/
structure Signature where
  front : List Token
  name : String
  hasReceiver : Bool
  back : List Token

/-- A signature as it is written. -/
def Signature.tokens (signature : Signature) : List Token :=
  signature.front ++ .ident signature.name :: signature.back

/-- What stands in front of the name of a function. -/
def signatureFront : Parser (List Token) := do
  let constancy ← word? "const"
  let asynchrony ← word? "async"
  let safety ← word? "unsafe"
  let convention ← callingConvention?
  return constancy ++ asynchrony ++ safety ++ convention ++ (← word "fn")

/-- A signature comes next. -/
def isSignature : Ahead :=
  fun tokens ↦ (signatureFront tokens).isSome

/-- The signature of a function. -/
def signature (g : Grammar) : Parser Signature := do
  let front ← signatureFront
  let name ← name
  let generics ← parameters g
  let (hasReceiver, inputs) ← inside .paren (functionParameters g)
  let output ← returnType g true
  let conditions ← conditions? g
  let back := generics.withDefaults ++ [.group .paren inputs] ++ output ++ conditions
  return ⟨front, name, hasReceiver, back⟩

end EndpointGuard.Source
