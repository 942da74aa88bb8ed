import WorkflowConditions.Text.Quotation
import WorkflowConditions.Token.Scan

namespace WorkflowConditions.Layout

open Text (Cell)

/-!
# Segments

A condition may be broken after a connective.  Its text is cut into segments, each
ending at a place where a line may end, and a tail that has no such place.  Lines
are then filled with segments until a rule says that the line has to end.
-/

/-- Text up to a place where a line may end. -/
structure Segment where
  /-- What stands before the closing. -/
  body : List Cell
  /-- The connective, with the blanks before it that belong to the place. -/
  closing : List Cell
  /-- The blanks after the connective, which a line break swallows. -/
  gap : List Cell
  deriving Repr, DecidableEq

/-- A text cut into segments and a tail. -/
structure Segmented where
  segments : List Segment
  tail : List Cell
  deriving Repr, DecidableEq

namespace Segment

/-- The text of a segment, gap included. -/
def cells (segment : Segment) : List Cell :=
  segment.body ++ segment.closing ++ segment.gap

end Segment

namespace Segmented

/-- A text without segments. -/
def empty : Segmented :=
  ⟨[], []⟩

/-- Put a cell in front. -/
def cons
    (cell : Cell) :
    Segmented → Segmented
  | ⟨[], tail⟩ => ⟨[], cell :: tail⟩
  | ⟨first :: others, tail⟩ => ⟨{ first with body := cell :: first.body } :: others, tail⟩

/-- Put a segment in front. -/
def push
    (segment : Segment)
    (text : Segmented) :
    Segmented :=
  ⟨segment :: text.segments, text.tail⟩

/-- The text that was cut. -/
def cells (text : Segmented) : List Cell :=
  text.segments.flatMap Segment.cells ++ text.tail

@[simp]
theorem cells_empty : empty.cells = [] := by
  rfl

@[simp]
theorem cells_cons
    (cell : Cell)
    (text : Segmented) :
    (cons cell text).cells = cell :: text.cells := by
  rcases text with ⟨segments, tail⟩
  cases segments <;> simp [cons, cells, Segment.cells]

@[simp]
theorem cells_push
    (segment : Segment)
    (text : Segmented) :
    (push segment text).cells = segment.cells ++ text.cells := by
  simp [push, cells]

end Segmented

/-- Cut a text after every connective outside quotations. -/
def cutAtConnectives (text : List Cell) : Segmented :=
  match text with
  | [] => .empty
  | cell :: rest =>
      match Token.connective? (cell :: rest) with
      | some _ =>
          let after := rest.drop 1
          .push ⟨[], cell :: rest.take 1, after.takeWhile Cell.isBlank⟩
            (cutAtConnectives (after.dropWhile Cell.isBlank))
      | none => .cons cell (cutAtConnectives rest)
termination_by text.length
decreasing_by
  · have shorter := (List.dropWhile_suffix (l := rest.drop 1) Cell.isBlank).length_le
    simp only [List.length_drop, List.length_cons] at shorter ⊢
    omega
  · simp

/-- How a cell changes the depth of parentheses. -/
def depthAfter
    (depth : Int)
    (cell : Cell) :
    Int :=
  if cell = .plain '(' then depth + 1
  else if cell = .plain ')' then depth - 1
  else depth

/--
Cut a text after every connective that follows, across blanks, a parenthesis
which closes the outermost group.
-/
def cutAtGroups
    (depth : Int)
    (text : List Cell) :
    Segmented :=
  match text with
  | [] => .empty
  | cell :: rest =>
      let reached := depthAfter depth cell
      let blanks := rest.takeWhile Cell.isBlank
      let next := rest.dropWhile Cell.isBlank
      if cell = .plain ')' ∧ reached = 0 ∧ (Token.connective? next).isSome then
        let after := next.drop 2
        .push ⟨[cell], blanks ++ next.take 2, after.takeWhile Cell.isBlank⟩
          (cutAtGroups reached (after.dropWhile Cell.isBlank))
      else .cons cell (cutAtGroups reached rest)
termination_by text.length
decreasing_by
  · have first := (List.dropWhile_suffix (l := rest) Cell.isBlank).length_le
    have second :=
      (List.dropWhile_suffix (l := (rest.dropWhile Cell.isBlank).drop 2) Cell.isBlank).length_le
    simp only [List.length_drop, List.length_cons] at first second ⊢
    omega
  · simp

/-- White space around a line is no part of it. -/
def trimLine (line : List Cell) : List Cell :=
  Text.trimBy Cell.isSpace line

/--
Fill lines with segments.  The rule tells whether a line that stands at `line`
has to end with the next segment; what is left at the end is a line of its own
unless it is blank.
-/
def fill
    (ends : List Cell → Segment → Bool)
    (tail : List Cell)
    (line : List Cell) :
    List Segment → List (List Cell)
  | [] =>
      let last := line ++ tail
      if last.all Cell.isSpace then [] else [trimLine last]
  | segment :: others =>
      if ends line segment then
        trimLine (line ++ segment.body ++ segment.closing) :: fill ends tail [] others
      else
        fill ends tail (line ++ segment.cells) others

end WorkflowConditions.Layout
