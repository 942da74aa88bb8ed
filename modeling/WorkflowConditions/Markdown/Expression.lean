import WorkflowConditions.Text.Occurrence
import WorkflowConditions.Text.Wrapper

namespace WorkflowConditions.Markdown

/-!
# Wrapped expressions in markdown

Markdown is read as plain characters and wrapped expressions.  An expression runs
from an opening to the nearest closing on the same line; expressions are found
from left to right and do not overlap.
-/

/-- What stands before the nearest closing on the line, and the text after that closing. -/
def upToClosing? : List Char → Option (List Char × List Char)
  | [] => none
  | c :: rest =>
      match Text.after? Text.closing (c :: rest) with
      | some after => some ([], after)
      | none =>
          if c = '\n' then none
          else (upToClosing? rest).map fun (content, after) => (c :: content, after)

/-- The content of the expression at the front of a text, and the text after it. -/
def expression? (text : List Char) : Option (List Char × List Char) :=
  match Text.after? Text.opening text with
  | some inner => upToClosing? inner
  | none => none

/-- A part of a markdown text. -/
inductive Piece where
  | plain (c : Char)
  /-- An expression, by what stands inside its wrapper. -/
  | wrapped (content : List Char)
  deriving Repr, DecidableEq

namespace Piece

/-- The source text of an expression. -/
def wrap (content : List Char) : List Char :=
  Text.opening ++ content ++ Text.closing

/-- The source text of a piece. -/
def source : Piece → List Char
  | .plain c => [c]
  | .wrapped content => wrap content

/-- The content of a piece that is an expression. -/
def content? : Piece → Option (List Char)
  | .plain _ => none
  | .wrapped content => some content

end Piece

/-- The text up to a closing is the content, the closing and the rest. -/
theorem eq_append_of_upToClosing?
    {text content rest : List Char}
    (found : upToClosing? text = some (content, rest)) :
    text = content ++ Text.closing ++ rest := by
  induction text generalizing content with
  | nil => simp [upToClosing?] at found
  | cons c text inductionHypothesis =>
      unfold upToClosing? at found
      split at found
      · next after closed =>
          obtain ⟨rfl, rfl⟩ : [] = content ∧ after = rest := by simpa using found
          simpa using Text.after?_eq_some_iff.mp closed
      · split at found
        · simp at found
        · obtain ⟨⟨inner, after⟩, located, equal⟩ := Option.map_eq_some_iff.mp found
          simp only [Prod.mk.injEq] at equal
          obtain ⟨rfl, rfl⟩ := equal
          simp [inductionHypothesis located]

/-- An expression at the front of a text is its wrapped content, followed by the rest. -/
theorem eq_append_of_expression?
    {text content rest : List Char}
    (found : expression? text = some (content, rest)) :
    text = Piece.wrap content ++ rest := by
  unfold expression? at found
  split at found
  · next inner opened =>
      rw [Text.after?_eq_some_iff.mp opened, eq_append_of_upToClosing? found]
      simp [Piece.wrap]
  · simp at found

/-- What follows an expression is shorter than the text. -/
theorem length_lt_of_expression?
    {text content rest : List Char}
    (found : expression? text = some (content, rest)) :
    rest.length < text.length := by
  rw [eq_append_of_expression? found]
  simp [Piece.wrap, Text.opening, Text.closing]
  omega

/-- The pieces of a markdown text, from left to right. -/
def pieces (text : List Char) : List Piece :=
  match text with
  | [] => []
  | c :: rest =>
      match found : expression? (c :: rest) with
      | some (content, after) =>
          have _shorter := length_lt_of_expression? found
          .wrapped content :: pieces after
      | none => .plain c :: pieces rest
termination_by text.length
decreasing_by
  · assumption
  · simp

/-- The contents of the expressions of a markdown text. -/
def contents (text : List Char) : List (List Char) :=
  (pieces text).filterMap Piece.content?

end WorkflowConditions.Markdown
