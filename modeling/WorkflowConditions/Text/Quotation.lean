import WorkflowConditions.Text.Space

namespace WorkflowConditions.Text

/-!
# Quoted substrings

A quotation mark opens a substring that runs to the next equal mark.  A backslash
takes the character after it along, and a quotation that is never closed runs to
the end of the text.  Reading a text once therefore tells, for every character,
whether it is quoted; scanners work on the resulting cells, so they all agree on
what is quoted.
-/

/-- The three quotation marks. -/
def isQuotationMark (c : Char) : Bool :=
  c == '\x27' || c == '\x22' || c == '\x60'

/-- Where a reader stands with respect to quoted substrings. -/
inductive Quotation where
  /-- Outside every quoted substring. -/
  | outside
  /-- Inside a substring that `mark` closes. -/
  | inside (mark : Char)
  /-- Right after a backslash inside a substring that `mark` closes. -/
  | escaped (mark : Char)
  deriving Repr, DecidableEq

namespace Quotation

/-- Where the reader stands after one more character. -/
def next : Quotation → Char → Quotation
  | .outside, c => if isQuotationMark c then .inside c else .outside
  | .inside mark, c =>
      if c = mark then .outside
      else if c = '\\' then .escaped mark
      else .inside mark
  | .escaped mark, _ => .inside mark

/-- Whether the next character belongs to a quoted substring, its marks included. -/
def covers : Quotation → Char → Bool
  | .outside, c => isQuotationMark c
  | .inside _, _ => true
  | .escaped _, _ => true

/-- Number of characters up to and including the one that closes the quotation. -/
def remaining : Quotation → List Char → Nat
  | _, [] => 0
  | quotation, c :: rest =>
      match quotation.next c with
      | .outside => 1
      | .inside mark => 1 + (inside mark).remaining rest
      | .escaped mark => 1 + (escaped mark).remaining rest

end Quotation

/-- A character of a text together with whether it is quoted there. -/
structure Cell where
  char : Char
  quoted : Bool
  deriving Repr, DecidableEq

namespace Cell

/-- A character outside every quoted substring. -/
def plain (c : Char) : Cell :=
  ⟨c, false⟩

/-- The characters of some cells. -/
def chars (cells : List Cell) : List Char :=
  cells.map Cell.char

/-- The text of some cells. -/
def text (cells : List Cell) : String :=
  String.ofList (chars cells)

/-- A cell is white space when its character is, quoted or not. -/
def isSpace (cell : Cell) : Bool :=
  Text.isSpace cell.char

/-- A cell is a blank when its character is. -/
def isBlank (cell : Cell) : Bool :=
  Text.isBlank cell.char

end Cell

/-- Cells of a text whose reader starts at the given place. -/
def cellsFrom : Quotation → List Char → List Cell
  | _, [] => []
  | quotation, c :: rest => ⟨c, quotation.covers c⟩ :: cellsFrom (quotation.next c) rest

/-- Cells of a whole text. -/
def cells (text : List Char) : List Cell :=
  cellsFrom .outside text

/-- Marking quotations keeps every character in place. -/
@[simp]
theorem chars_cellsFrom
    (quotation : Quotation)
    (text : List Char) :
    Cell.chars (cellsFrom quotation text) = text := by
  induction text generalizing quotation with
  | nil => rfl
  | cons c rest inductionHypothesis =>
      have step := inductionHypothesis (quotation.next c)
      simp only [Cell.chars] at step ⊢
      simp [cellsFrom, step]

/--
Index just past the substring that the character at `index` opens.  That
character is the closing mark too, whatever it is; there is no such index when
`index` lies beyond the text.
-/
def quotationEnd?
    (text : String)
    (index : Nat) :
    Option Nat :=
  match text.toList.drop index with
  | [] => none
  | mark :: rest => some (index + 1 + (Quotation.inside mark).remaining rest)

end WorkflowConditions.Text
