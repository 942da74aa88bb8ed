import WorkflowConditions.Layout.Segment

namespace WorkflowConditions.Layout

open Text (Cell)

/-!
# Breaking a condition into lines

A condition that is longer than a line is broken after connectives.  Lines that
are still too long are broken once more, after parenthesis groups that a
connective follows.  Breaking only moves white space: no quoted substring is cut
and no token changes.
-/

/-- Lengths that govern line breaking. -/
structure Widths where
  /-- Longest text that is left alone. -/
  line : Int
  /-- A line ends at the first connective beyond this length. -/
  connective : Int
  /-- A line ends at the first group beyond this length. -/
  group : Int
  deriving Repr, DecidableEq

/-- The usual widths. -/
def Widths.standard : Widths :=
  ⟨120, 100, 80⟩

/-- Lines of a text that is broken at groups. -/
def linesAtGroups
    (widths : Widths)
    (text : List Char) :
    List (List Char) :=
  if (text.length : Int) ≤ widths.line then [text]
  else
    let cut := cutAtGroups 0 (Text.cells text)
    let ends (line : List Cell) (segment : Segment) : Bool :=
      widths.group < ((line ++ segment.body).length : Int)
    (fill ends cut.tail [] cut.segments).map Cell.chars

/-- Lines of a text that is broken at connectives only. -/
def linesAtConnectives
    (widths : Widths)
    (text : List Char) :
    List (List Char) :=
  let cut := cutAtConnectives (Text.cells text)
  let ends (line : List Cell) (segment : Segment) : Bool :=
    widths.connective < ((trimLine (line ++ segment.body ++ segment.closing)).length : Int)
  (fill ends cut.tail [] cut.segments).map Cell.chars

/-- Lines of a text. -/
def lines
    (widths : Widths)
    (text : List Char) :
    List (List Char) :=
  if (text.length : Int) ≤ widths.line then [text]
  else (linesAtConnectives widths text).flatMap (linesAtGroups widths)

/-- Break a condition into lines. -/
def breakLines
    (widths : Widths)
    (text : String) :
    List String :=
  (lines widths text.toList).map String.ofList

/-- Break a single line of a condition after its groups. -/
def breakAtGroups
    (widths : Widths)
    (text : String) :
    List String :=
  (linesAtGroups widths text.toList).map String.ofList

end WorkflowConditions.Layout
