import EndpointGuard.Declare.Rejection
import EndpointGuard.Source.Grammar.Whole

/-!
# Arguments of a declaration

A name for the endpoint, first or as `name = "..."`, and a type to extend, as `extends = Type`. Each
is given at most once, in any order.
-/

namespace EndpointGuard.Declare

open Source Source.Parser

/-- The arguments of a declaration: the string literal that names the endpoint, and the type to
extend. -/
structure Arguments where
  name : Option (List Token) := none
  parent : Option (List Token) := none

namespace Arguments

/-- A reader of tokens that fails for a reason. -/
abbrev Reader (α : Type) := StateT (List Token) (Except Rejection) α

/-- Read with a parser. -/
def part {α : Type} (parser : Parser α) : Reader α :=
  fun tokens ↦
    match parser tokens with
    | some found => .ok found
    | none => .error .malformed

/-- Read the key of an argument, and its value if the key may come here. -/
def pair (g : Grammar) (arguments : Arguments) : Reader Arguments := do
  let key ← part Parser.name
  let _ ← part (symbol "=")
  match key with
  | "name" =>
    if arguments.name.isSome then throw Rejection.nameTwice
    return { arguments with name := some (← part stringLiteral) }
  | "extends" =>
    if arguments.parent.isSome then throw Rejection.parentTwice
    return { arguments with parent := some (← part (g.type true)).tokens }
  | _ => throw Rejection.unknownKey

/-- Read arguments up to the end, at most `fuel` of them. A comma may stand behind the last. -/
def pairs (g : Grammar) : Nat → Arguments → Reader Arguments
  | 0, _ => throw Rejection.malformed
  | fuel + 1, arguments => do
    if atEnd (← get) then
      return arguments
    else
      let arguments ← pair g arguments
      if atEnd (← get) then
        return arguments
      else
        let _ ← part (symbol ",")
        pairs g fuel arguments

/-- Read arguments, a leading name included. -/
def whole (g : Grammar) : Reader Arguments := do
  let tokens ← get
  if isStringLiteral tokens then
    let arguments : Arguments := { name := some (← part stringLiteral) }
    if atEnd (← get) then
      return arguments
    else
      let _ ← part (symbol ",")
      pairs g tokens.length arguments
  else
    pairs g (tokens.length + 1) {}

/-- The arguments that all the tokens stand for. -/
def ofTokens (tokens : List Token) : Except Rejection Arguments :=
  (whole (.enoughFor tokens)).run' tokens

end Arguments

end EndpointGuard.Declare
