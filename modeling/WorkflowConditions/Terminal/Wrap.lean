import WorkflowConditions.Text.Cluster
import WorkflowConditions.Text.Lines
import WorkflowConditions.Text.Space

namespace WorkflowConditions.Terminal

/-!
# Wrapping text to a width

Text is wrapped between words.  A word takes the white space after it along; a
word that is wider than a whole line starts on a line of its own and is cut.
-/

/-- Distance between tab stops. -/
def tabStop : Nat :=
  8

/-- Replace tabs by spaces; `reversed` has been read since the latest tab stop, at a column. -/
def expandFrom
    (column : Nat)
    (reversed : List Char) :
    List Char → List Char
  | [] => reversed.reverse
  | c :: rest =>
      if c = '\t' then
        let part := (' ' :: reversed).reverse
        let reached := column + Text.width part
        let spaces := (tabStop - reached % tabStop) % tabStop
        part ++ List.replicate spaces ' ' ++ expandFrom (reached + spaces) [] rest
      else expandFrom column (c :: reversed) rest

/-- Replace tabs by spaces up to the next tab stop. -/
def expandTabs (line : List Char) : List Char :=
  expandFrom 0 [] line

/-- Whether a character belongs to the body of a word. -/
def isWordChar (c : Char) : Bool :=
  !Text.isSpace c

/-- The words of a text that starts with one, each with the white space after it. -/
def splitWords (text : List Char) : List (List Char) :=
  match text with
  | [] => []
  | c :: rest =>
      let after := rest.dropWhile isWordChar
      (c :: rest.takeWhile isWordChar ++ after.takeWhile Text.isSpace) ::
        splitWords (after.dropWhile Text.isSpace)
termination_by text.length
decreasing_by
  have first := (List.dropWhile_suffix (l := rest) isWordChar).length_le
  have second := (List.dropWhile_suffix (l := rest.dropWhile isWordChar) Text.isSpace).length_le
  simp only [List.length_cons]
  omega

/-- Words with the white space after them; the first one has the white space before it too. -/
def words (text : List Char) : List (List Char) :=
  match splitWords (text.dropWhile Text.isSpace) with
  | [] => []
  | first :: others => (text.takeWhile Text.isSpace ++ first) :: others

/-- Cut a word whose first part stands at `part` and takes `used` columns. -/
def chopFrom
    (width : Nat)
    (part : List Char)
    (used : Nat) :
    List Text.Cluster → List (List Char)
  | [] => [part]
  | cluster :: rest =>
      if width < used + cluster.columns then
        part :: chopFrom width cluster.chars cluster.columns rest
      else chopFrom width (part ++ cluster.chars) (used + cluster.columns) rest

/-- Cut a word into parts of at most the given width. -/
def chop
    (width : Nat)
    (word : List Char) :
    List (List Char) :=
  chopFrom width [] 0 (Text.clusters word)

/-- White space at the end of a text is no part of its width on a line. -/
def trimEnd (text : List Char) : List Char :=
  (text.reverse.dropWhile Text.isSpace).reverse

/-- A line that is being filled and the columns it takes. -/
structure Filling where
  done : List (List Char)
  line : List Char
  used : Nat
  deriving Repr

namespace Filling

/-- End the line, unless nothing has been written at all. -/
def endLine (filling : Filling) : Filling :=
  if filling.done.isEmpty && filling.line.isEmpty then filling
  else { filling with done := filling.done ++ [filling.line], line := [], used := 0 }

/-- Write the part of a word that has been cut. -/
def addPart
    (filling : Filling)
    (part : List Char) :
    Filling :=
  let fresh := filling.endLine
  { fresh with line := fresh.line ++ part, used := Text.width part }

/-- Write a word. -/
def add
    (width : Nat)
    (filling : Filling)
    (word : List Char) :
    Filling :=
  let size := Text.width (trimEnd word)
  if filling.used + size ≤ width then
    { filling with line := filling.line ++ word, used := filling.used + Text.width word }
  else if width < size then (chop width word).foldl addPart filling
  else filling.addPart word

end Filling

/-- The longest front of some clusters that fits; half a wide one becomes a space. -/
def crop (width : Nat) : List Text.Cluster → List Char
  | [] => []
  | cluster :: rest =>
      if cluster.columns ≤ width then cluster.chars ++ crop (width - cluster.columns) rest
      else List.replicate width ' '

/-- A finished line: white space beyond the width goes, and so does what is too wide. -/
def finishLine
    (width : Nat)
    (line : List Char) :
    List Char :=
  let excess := line.length - width
  let spaces := line.length - (trimEnd line).length
  let trimmed := line.take (line.length - min excess spaces)
  if width < Text.width trimmed then crop width (Text.clusters trimmed) else trimmed

/-- Wrap one line of text. -/
def wrapLine
    (width : Nat)
    (line : List Char) :
    List (List Char) :=
  let expanded := expandTabs line
  match words expanded with
  | [] => [finishLine width expanded]
  | found =>
      let filling := found.foldl (Filling.add width) ⟨[], [], 0⟩
      (filling.done ++ [filling.line]).map (finishLine width)

/-- Wrap a text; no lines are left when there is no room for any column. -/
def wrap
    (width : Nat)
    (text : List Char) :
    List (List Char) :=
  if width = 0 then [] else (Text.splitLines text).flatMap (wrapLine width)

end WorkflowConditions.Terminal
