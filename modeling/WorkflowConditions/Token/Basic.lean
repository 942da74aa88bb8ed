namespace WorkflowConditions

/-!
# Tokens of a condition

A condition is a flat sequence of connectives, negations, grouping parentheses
and literals.  Literals are opaque: a comparison, a property path or a whole
function call is one literal.
-/

namespace Token

/-- What a token stands for. -/
inductive Kind where
  | literal
  | and
  | or
  | not
  | leftParen
  | rightParen
  | eof
  deriving Repr, DecidableEq

end Token

/-- A token with its source text and its offset in the condition. -/
structure Token where
  kind : Token.Kind
  text : String
  position : Nat
  deriving Repr, DecidableEq

namespace Token

/-- The token that ends a condition of the given length. -/
def atEnd (length : Nat) : Token :=
  ⟨.eof, "", length⟩

/-- Name of a kind of token in listings. -/
def Kind.name : Kind → String
  | .literal => "literal"
  | .and => "and"
  | .or => "or"
  | .not => "not"
  | .leftParen => "left_paren"
  | .rightParen => "right_paren"
  | .eof => "eof"

end Token

end WorkflowConditions
