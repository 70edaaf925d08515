import EndpointGuard.Source.Grammar.Statement

/-!
# The whole grammar

The rules put into one another as deep as a text can need: every part that a rule leaves to the
grammar has fewer tokens than the rule was given, so as many levels as there are tokens are enough.
-/

namespace EndpointGuard.Source

open Source.Parser

namespace Grammar

/-- The rules on top of a grammar for the parts. -/
def extend (g : Grammar) : Grammar where
  type := typeRule g
  pattern := patternRule g
  unary := unaryRule g
  expression := expressionRule g
  leadingExpression := leadingRule g
  item := itemRule g
  statements := statementsRule g

/-- The rules put into one another a number of times. -/
def level : Nat → Grammar
  | 0 => .none
  | depth + 1 => (level depth).extend

/-- The grammar for texts of no more tokens than these. -/
def enoughFor (tokens : List Token) : Grammar :=
  level (Token.countList tokens + 1)

/-- Read all tokens with a rule. -/
def read {α : Type} (rule : Grammar → Parser α) (tokens : List Token) : Option α :=
  all (rule (enoughFor tokens)) tokens

end Grammar

end EndpointGuard.Source
