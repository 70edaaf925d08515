import EndpointGuard.Source.Grammar.Pattern

/-!
# Infix operators

Operands with operators between them. An operator takes as its right operand all that binds more
strongly than itself. Comparisons do not follow one another, and a range is no left operand.
-/

namespace EndpointGuard.Source

open Source.Parser

/-! ## Strength -/

/-- How strongly an operator binds, weakest first. -/
inductive Strength where
  | least
  | assignment
  | range
  | disjunction
  | conjunction
  | comparison
  | bitOr
  | bitXor
  | bitAnd
  | shift
  | sum
  | product
  | cast
deriving DecidableEq

namespace Strength

/-- The place of a strength among all of them. -/
def rank : Strength → Nat
  | least => 0
  | assignment => 1
  | range => 2
  | disjunction => 3
  | conjunction => 4
  | comparison => 5
  | bitOr => 6
  | bitXor => 7
  | bitAnd => 8
  | shift => 9
  | sum => 10
  | product => 11
  | cast => 12

/-- One operator binds more strongly than the other. -/
def exceeds (strength other : Strength) : Bool :=
  other.rank < strength.rank

/-- An operator of this strength belongs to the right operand of one of the other strength. -/
def goesRightOf (strength other : Strength) : Bool :=
  strength.exceeds other || (strength = other && other = assignment)

end Strength

/-- The operators between two operands, longer ones before those that they begin with. -/
def binaryOperators : List (String × Strength) :=
  [("+=", .assignment), ("-=", .assignment), ("*=", .assignment), ("/=", .assignment),
    ("%=", .assignment), ("^=", .assignment), ("&=", .assignment), ("|=", .assignment),
    ("<<=", .assignment), (">>=", .assignment), ("&&", .conjunction), ("||", .disjunction),
    ("<<", .shift), (">>", .shift), ("==", .comparison), ("<=", .comparison), ("!=", .comparison),
    (">=", .comparison), ("+", .sum), ("-", .sum), ("*", .product), ("/", .product),
    ("%", .product), ("^", .bitXor), ("&", .bitAnd), ("|", .bitOr), ("<", .comparison),
    (">", .comparison)]

/-- The operator between two operands that comes next. -/
def binaryOperator? (tokens : List Token) : Option (String × Strength) :=
  binaryOperators.find? fun (text, _) ↦ isSymbol text tokens

/-- The equals sign of an assignment comes next. -/
def isAssignment : Ahead :=
  isSymbolBut "=" "=>"

/-- The strength of the operator that comes next. -/
def strengthAhead (tokens : List Token) : Strength :=
  match binaryOperator? tokens with
  | some (_, strength) => strength
  | none =>
    if isAssignment tokens then .assignment
    else if isSymbol ".." tokens then .range
    else if isWord "as" tokens then .cast
    else .least

/-! ## Operators behind an operand -/

/-- A dot that is not the beginning of a range comes next. -/
def isDot : Ahead :=
  isSymbolBut "." ".."

/-- A range without the mark for its end has no end when one of these comes next. -/
def isRangeEnd (allowStruct : Bool) : Ahead :=
  fun tokens ↦ anyOf [atEnd, isSymbol ",", isSymbol ";", isDot, isSymbol "?", isSymbol "=>",
      isSymbol "=", isSymbol "+", isSymbol "/", isSymbol "%", isSymbol "^", isSymbol ">",
      isSymbol "<=", isSymbol "!=", isSymbol "-=", isSymbol "*=", isSymbol "&=", isSymbol "|=",
      isSymbol "<<=", isWord "as"] tokens ||
    (!allowStruct && isGroup .brace tokens)

/-- The mark of a range, and whether the range includes its end. -/
def rangeMark : Parser (Bool × List Token) := do
  if ← ahead (isSymbol "..=") then return (true, ← symbol "..=")
  else if ← ahead (isSymbol "...") then failure
  else return (false, ← symbol "..")

/-- The type behind the word for a conversion. Nothing may be taken from the result without
parentheses. -/
def castTail (g : Grammar) : Parser (List Token) := do
  let mark ← word "as"
  let type ← g.type false
  if ← ahead (anyOf [isDot, isSymbol "?", isGroup .bracket, isGroup .paren]) then failure
  else return mark ++ type.tokens

mutual

/-- Read operators behind a left operand that bind at least as strongly as `base`, at most `fuel` of
them. -/
def operatorsBehind (g : Grammar) (allowStruct : Bool) :
    Nat → Strength → Expression → Parser Expression
  | 0, _, _ => failure
  | fuel + 1, base, left => do
    if left.kind = .range then
      return left
    else
      match binaryOperator? (← get) with
      | some (text, strength) =>
        if base.exceeds strength then
          return left
        else if strength = .comparison && left.kind = .comparison then
          failure
        else
          let mark ← symbol text
          let right ← strongerBehind g allowStruct fuel strength (← g.unary allowStruct)
          let kind := if strength = .comparison then .comparison else .other
          operatorsBehind g allowStruct fuel base ⟨kind, left.tokens ++ mark ++ right.tokens⟩
      | none =>
        if !base.exceeds .assignment && (← ahead isAssignment) then
          let mark ← symbol "="
          let right ← strongerBehind g allowStruct fuel .assignment (← g.unary allowStruct)
          operatorsBehind g allowStruct fuel base ⟨.other, left.tokens ++ mark ++ right.tokens⟩
        else if !base.exceeds .range && (← ahead (isSymbol "..")) then
          let (closed, mark) ← rangeMark
          if !closed && (← ahead (isRangeEnd allowStruct)) then
            return ⟨.range, left.tokens ++ mark⟩
          else
            let right ← strongerBehind g allowStruct fuel .range (← g.unary allowStruct)
            return ⟨.range, left.tokens ++ mark ++ right.tokens⟩
        else if !base.exceeds .cast && (← ahead (isWord "as")) then
          let tail ← castTail g
          operatorsBehind g allowStruct fuel base ⟨.other, left.tokens ++ tail⟩
        else
          return left

/-- Read what belongs to the right operand of an operator of the given strength behind its first
part, in at most `fuel` steps. -/
def strongerBehind (g : Grammar) (allowStruct : Bool) :
    Nat → Strength → Expression → Parser Expression
  | 0, _, _ => failure
  | fuel + 1, strength, right => do
    let before ← get
    let next := strengthAhead before
    if next.goesRightOf strength then
      let joined ← operatorsBehind g allowStruct fuel next right
      if (← get).length < before.length then strongerBehind g allowStruct fuel strength joined
      else return joined
    else
      return right

end

/-- The operators behind a first operand. -/
def withOperators (g : Grammar) (allowStruct : Bool) (first : Expression) : Parser Expression :=
  fun tokens ↦ operatorsBehind g allowStruct (2 * tokens.length + 2) .least first tokens

/-- The right operand of an operator of the given strength. -/
def rightOperand (g : Grammar) (allowStruct : Bool) (strength : Strength) : Parser Expression := do
  let first ← g.unary allowStruct
  fun tokens ↦ strongerBehind g allowStruct (2 * tokens.length + 2) strength first tokens

/-- A range without a beginning. -/
def rangeTo (g : Grammar) (allowStruct : Bool) : Parser (List Token) := do
  let (closed, mark) ← rangeMark
  if !closed && (← ahead (isRangeEnd allowStruct)) then return mark
  else return mark ++ (← rightOperand g allowStruct .range).tokens

end EndpointGuard.Source
