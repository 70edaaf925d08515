import EndpointGuard.Source.Parser

/-!
# The grammar of Rust: what refers to itself

Types, patterns, expressions, items and statements contain one another. A `Grammar` holds the
parsers of these five; every rule is a function of the grammar that it uses for the parts it
contains, and the whole grammar is the limit of putting rules into one another. The other modules of
the grammar give the rules.
-/

namespace EndpointGuard.Source

/-- What kind of type was read. A `path` has no qualifier in angle brackets; `last` is its last name
and `plain` tells that it has one segment, without a leading symbol and without arguments in
parentheses. A `bounds` type lists bounds without the word for it, perhaps several. -/
inductive TypeKind where
  | path (last : String) (plain : Bool)
  | bounds (several : Bool)
  | other
deriving DecidableEq

/-- A type as it is written. -/
structure TypeForm where
  kind : TypeKind
  tokens : List Token

/-- A pattern as it is written, and whether it is a range without one of its ends. -/
structure PatternForm where
  openRange : Bool
  tokens : List Token

/-- What kind of expression was read. A `block` needs no semicolon to be a statement, the call of a
macro needs none when its arguments stand in braces, and neither a `range` nor a `comparison` is the
left operand of another one. -/
inductive ExpressionKind where
  | stringLiteral
  | path
  | block
  | macroCall (braces : Bool)
  | range
  | comparison
  | other
deriving DecidableEq

/-- An expression as it is written. -/
structure Expression where
  kind : ExpressionKind
  tokens : List Token

/-- The expression ends with a block. -/
def Expression.endsInBrace (expression : Expression) : Bool :=
  match expression.tokens.getLast? with
  | some (.group .brace _) => true
  | _ => false

/-- The parsers of the parts that contain one another. A type may be a sum of bounds or not, and an
expression may be a structure literal or not. `unary` reads an expression without infix operators
outside. -/
structure Grammar where
  type : Bool → Parser TypeForm
  pattern : Parser PatternForm
  unary : Bool → Parser Expression
  expression : Bool → Parser Expression
  leadingExpression : Parser Expression
  item : Parser (List Token)
  statements : Parser (List Token)

/-- The grammar that accepts nothing. -/
def Grammar.none : Grammar where
  type := fun _ ↦ failure
  pattern := failure
  unary := fun _ ↦ failure
  expression := fun _ ↦ failure
  leadingExpression := failure
  item := failure
  statements := failure

end EndpointGuard.Source
