import WorkflowConditions.Condition.Basic
import WorkflowConditions.Text.Space
import WorkflowConditions.Token.Scan

namespace WorkflowConditions

/-!
# Reading a condition

Negation binds tightest, then conjunction, then disjunction; chains associate to
the left and parentheses leave no trace in the tree.  The reader consumes one
token at a time and keeps a level for every group that is still open, so it stops
exactly at the first token that cannot continue a condition.
-/

/-- Why a text is no condition. -/
inductive ParseError where
  /-- The text holds white space only. -/
  | blank
  /-- `token` cannot stand at `position`; the end of the text is the empty token. -/
  | unexpected (token : String) (position : Nat)
  /-- An operand has ended at `position`, but its group is still open. -/
  | unclosed (token : String) (position : Nat)
  deriving Repr, DecidableEq

namespace ParseError

/-- Offset of the offending token. -/
def position : ParseError → Nat
  | .blank => 0
  | .unexpected _ position => position
  | .unclosed _ position => position

/-- Text of the offending token. -/
def token : ParseError → String
  | .blank => ""
  | .unexpected token _ => token
  | .unclosed token _ => token

/-- What is reported. -/
def message : ParseError → String
  | .blank => "empty expression"
  | .unexpected token position =>
      "unexpected token '" ++ token ++ "' at position " ++ toString position
  | .unclosed _ position => "expected ')' at position " ++ toString position

end ParseError

namespace Parser

/-- What has been read of one level of parentheses, up to the operand that comes next. -/
structure Level where
  /-- Disjuncts that are complete. -/
  disjuncts : Option Condition
  /-- Conjuncts of the current disjunct that are complete. -/
  conjuncts : Option Condition
  /-- Negations that wait for their operand. -/
  negations : Nat
  deriving Repr

namespace Level

/-- A level of which nothing has been read. -/
def fresh : Level :=
  ⟨none, none, 0⟩

/-- A condition under a number of negations. -/
def negate : Nat → Condition → Condition
  | 0, condition => condition
  | count + 1, condition => .not (negate count condition)

/-- The current disjunct once `operand` has been read. -/
def conjunction
    (level : Level)
    (operand : Condition) :
    Condition :=
  let negated := negate level.negations operand
  match level.conjuncts with
  | none => negated
  | some left => .and left negated

/-- The whole level once its last disjunct is known. -/
def disjunction
    (level : Level)
    (disjunct : Condition) :
    Condition :=
  match level.disjuncts with
  | none => disjunct
  | some left => .or left disjunct

end Level

/-- The place between two tokens. -/
inductive State where
  /-- An operand has to follow. -/
  | expecting (level : Level) (outer : List Level)
  /-- An operand has just ended and completes `disjunct` so far. -/
  | completed (disjunct : Condition) (level : Level) (outer : List Level)
  deriving Repr

namespace State

/-- The place before the first token. -/
def start : State :=
  .expecting .fresh []

/-- The place after `operand` has been read at a level. -/
def complete
    (operand : Condition)
    (level : Level)
    (outer : List Level) :
    State :=
  .completed (level.conjunction operand) level outer

/-- Read one token; there is no next place when the token cannot stand here. -/
def step? : State → Token → Option State
  | .expecting level outer, token =>
      match token.kind with
      | .literal => some (complete (.leaf token.text) level outer)
      | .not => some (.expecting { level with negations := level.negations + 1 } outer)
      | .leftParen => some (.expecting .fresh (level :: outer))
      | _ => none
  | .completed disjunct level outer, token =>
      match token.kind with
      | .and => some (.expecting ⟨level.disjuncts, some disjunct, 0⟩ outer)
      | .or => some (.expecting ⟨some (level.disjunction disjunct), none, 0⟩ outer)
      | .rightParen =>
          match outer with
          | [] => none
          | enclosing :: others =>
              some (complete (level.disjunction disjunct) enclosing others)
      | _ => none

/-- The condition that has been read when the text ends here. -/
def result? : State → Option Condition
  | .completed disjunct level [] => some (level.disjunction disjunct)
  | _ => none

/-- The error at a token that cannot stand here. -/
def errorAt
    (state : State)
    (token : Token) :
    ParseError :=
  match state with
  | .completed _ _ (_ :: _) => .unclosed token.text token.position
  | _ => .unexpected token.text token.position

end State

/-- Read tokens from a place on, up to the end of a text of the given length. -/
def run
    (length : Nat)
    (state : State) :
    List Token → Except ParseError Condition
  | [] =>
      match state.result? with
      | some condition => .ok condition
      | none => .error (state.errorAt (.atEnd length))
  | token :: rest =>
      match state.step? token with
      | some next => run length next rest
      | none => .error (state.errorAt token)

end Parser

namespace Condition

/-- Read a condition. -/
def parse (source : String) : Except ParseError Condition :=
  if Text.isBlankText source then .error .blank
  else Parser.run source.length .start (Token.body source)

end Condition

end WorkflowConditions
