import WorkflowConditions.Text.Quotation
import WorkflowConditions.Text.Space
import WorkflowConditions.Token.Basic

namespace WorkflowConditions.Token

open Text (Cell)

/-!
# Scanning a condition into tokens

Operators count only outside quoted substrings.  A literal keeps its own
parentheses, so it ends at the first operator at its own depth or at a closing
parenthesis it did not open.  Scanning never fails: every character that is not
white space belongs to exactly one token.
-/

/-- The connective with which some cells begin, `&&` or `||`. -/
def connective? : List Cell → Option Kind
  | first :: second :: _ =>
      if first = .plain '&' ∧ second = .plain '&' then some .and
      else if first = .plain '|' ∧ second = .plain '|' then some .or
      else none
  | _ => none

/-- Whether some cells begin with a negation: `!`, but not the `!` of `!=`. -/
def startsNegation : List Cell → Bool
  | first :: second :: _ => first = .plain '!' && second.char != '='
  | [first] => first = .plain '!'
  | [] => false

/-- Whether some cells begin with a connective or a negation. -/
def startsOperator (cells : List Cell) : Bool :=
  (connective? cells).isSome || startsNegation cells

/-- Number of cells that continue a literal with `depth` parentheses of its own open. -/
def literalLength : (depth : Nat) → List Cell → Nat
  | _, [] => 0
  | depth, cell :: rest =>
      if cell = .plain '(' then 1 + literalLength (depth + 1) rest
      else if cell = .plain ')' then
        match depth with
        | 0 => 0
        | outer + 1 => 1 + literalLength outer rest
      else if depth = 0 ∧ startsOperator (cell :: rest) then 0
      else 1 + literalLength depth rest

/-- The kind of a token and the number of its cells. -/
structure Run where
  kind : Kind
  length : Nat
  deriving Repr, DecidableEq

/-- The run of cells that begins with `cell`, which is no white space. -/
def run
    (cell : Cell)
    (rest : List Cell) :
    Run :=
  match connective? (cell :: rest) with
  | some kind => ⟨kind, 2⟩
  | none =>
      if startsNegation (cell :: rest) then ⟨.not, 1⟩
      else if cell = .plain '(' then ⟨.leftParen, 1⟩
      else if cell = .plain ')' then ⟨.rightParen, 1⟩
      else ⟨.literal, literalLength 0 (cell :: rest)⟩

/-- A run of cells has no text. -/
structure EmptyRun where
  position : Nat
  deriving Repr, DecidableEq

/-- What is reported of a run without text; only a literal could be one. -/
def EmptyRun.message (error : EmptyRun) : String :=
  "unexpected empty literal at position " ++ toString error.position

/-- Tokens of the cells that stand at `position`, and the position that is reached. -/
def readFrom
    (position : Nat)
    (cells : List Cell) :
    Except EmptyRun (List Token × Nat) :=
  match cells with
  | [] => .ok ([], position)
  | cell :: rest =>
      if cell.isSpace then readFrom (position + 1) rest
      else
        let found := run cell rest
        let text := Text.trimChars (Cell.chars ((cell :: rest).take found.length))
        if _nonempty : text = [] then .error ⟨position⟩
        else
          match readFrom (position + found.length) ((cell :: rest).drop found.length) with
          | .error error => .error error
          | .ok (tokens, reached) =>
              .ok (⟨found.kind, String.ofList text, position⟩ :: tokens, reached)
termination_by cells.length
decreasing_by
  · simp
  · have positive : found.length ≠ 0 := by
      intro none
      exact _nonempty (by simp [text, none, Cell.chars, Text.trimChars, Text.trimBy])
    rw [List.length_drop]
    exact Nat.sub_lt (Nat.succ_pos _) (Nat.pos_of_ne_zero positive)

/-- Tokens of the cells that stand at `position`. -/
def scanFrom
    (position : Nat)
    (cells : List Cell) :
    List Token :=
  match readFrom position cells with
  | .ok (tokens, _) => tokens
  | .error _ => []

/-- Tokens of a condition, without the end token. -/
def body (source : String) : List Token :=
  scanFrom 0 (Text.cells source.toList)

/-- Tokens of a condition; the last one is the end token where scanning stops. -/
def scanChecked (source : String) : Except EmptyRun (List Token) :=
  match readFrom 0 (Text.cells source.toList) with
  | .ok (tokens, reached) => .ok (tokens ++ [atEnd reached])
  | .error error => .error error

/-- Tokens of a condition with its end token; scanning never fails. -/
def scan (source : String) : List Token :=
  match scanChecked source with
  | .ok tokens => tokens
  | .error _ => []

end WorkflowConditions.Token
