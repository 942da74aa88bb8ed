import WorkflowConditions.Proofs.Layout.Segmentation

namespace WorkflowConditions.Layout

open Text (Cell Quotation cells cellsFrom isSpace)
open Token (connective?)

/-!
# Rows of a broken text

A broken text is made up of rows: each line with the white space that follows it.
Rows are taken from the cells of the whole text, so what is said of the end of a
line holds of that place in the text, whatever is quoted before it.
-/

/-- A line of a text and the white space behind it. -/
structure Row where
  line : List Cell
  gap : List Cell
  deriving Repr, DecidableEq

namespace Row

/-- The part of the text that a row takes up. -/
def cells (row : Row) : List Cell :=
  row.line ++ row.gap

/-- The line of a row as it is printed. -/
def text (row : Row) : String :=
  Cell.text row.line

end Row

/-- A line that ends in a connective outside every quotation. -/
def EndsInConnective (line : List Cell) : Prop :=
  ∃ front c,
    (c = '&' ∨ c = '|') ∧ line = front ++ [.plain c, .plain c]

/-- A line that ends in a closing parenthesis, blanks and a connective. -/
def EndsBehindGroup (line : List Cell) : Prop :=
  ∃ front blanks c,
    (∀ cell ∈ blanks, cell.isBlank = true) ∧
      (c = '&' ∨ c = '|') ∧
      line = front ++ .plain ')' :: (blanks ++ [.plain c, .plain c])

/-- Rows that make up a text behind some white space, all but the last with a given ending. -/
structure Rows
    (ending : List Cell → Prop)
    (text lead : List Cell)
    (rows : List Row) :
    Prop where
  whole : text = lead ++ rows.flatMap Row.cells
  leadBlank : ∀ cell ∈ lead, cell.isSpace = true
  gapsBlank : ∀ row ∈ rows, ∀ cell ∈ row.gap, cell.isSpace = true
  ends : ∀ row ∈ rows.dropLast, ending row.line

namespace Rows

variable
  {ending : List Cell → Prop}

/-- White space alone has no row. -/
theorem blank
    {text : List Cell}
    (spaces : ∀ cell ∈ text, cell.isSpace = true) :
    Rows ending text text [] :=
  ⟨by simp, spaces, by simp, by simp⟩

/-- A last row may end in anything, with white space around it. -/
theorem last
    {lead line trail : List Cell}
    (leadBlank : ∀ cell ∈ lead, cell.isSpace = true)
    (trailBlank : ∀ cell ∈ trail, cell.isSpace = true) :
    Rows ending (lead ++ (line ++ trail)) lead [⟨line, trail⟩] :=
  ⟨by simp [Row.cells], leadBlank, by simpa using trailBlank, by simp⟩

/-- White space in front of the other rows belongs to the gap of a new first row. -/
theorem cons
    {lead line gap text otherLead : List Cell}
    {others : List Row}
    (leadBlank : ∀ cell ∈ lead, cell.isSpace = true)
    (lineEnds : ending line)
    (gapBlank : ∀ cell ∈ gap, cell.isSpace = true)
    (later : Rows ending text otherLead others) :
    Rows ending (lead ++ (line ++ (gap ++ text))) lead
      (⟨line, gap ++ otherLead⟩ :: others) := by
  constructor
  · simp [Row.cells, later.whole]
  · exact leadBlank
  · rw [List.forall_mem_cons]
    exact ⟨List.forall_mem_append.mpr ⟨gapBlank, later.leadBlank⟩, later.gapsBlank⟩
  · intro row member
    cases others with
    | nil =>
        cases member
    | cons next rest =>
        rw [List.dropLast_cons_cons] at member
        rcases List.mem_cons.mp member with rfl | inOthers
        · exact lineEnds
        · exact later.ends row inOthers

end Rows

/-! ## Rows behind connectives -/

/-- A front that is cut at a connective ends in one. -/
theorem EndsAtConnective.endsInConnective
    {line : List Cell}
    (ends : EndsAtConnective line) :
    EndsInConnective line := by
  induction ends with
  | here joins =>
      obtain ⟨c, isConnective, rfl, rfl⟩ := Token.exists_plain_of_connective? joins
      exact ⟨[], c, isConnective, rfl⟩
  | @keep cell _ _ _ inductionHypothesis =>
      obtain ⟨front, c, isConnective, rfl⟩ := inductionHypothesis
      exact ⟨cell :: front, c, isConnective, rfl⟩
  | @past left right _ _ _ inductionHypothesis =>
      obtain ⟨front, c, isConnective, rfl⟩ := inductionHypothesis
      exact ⟨left :: right :: front, c, isConnective, rfl⟩

/-- A broken text is made up of rows; each line is read as it is in the text. -/
theorem Broken.exists_rows
    {text : List Char}
    {lines : List (List Char)}
    (broken : Broken text lines) :
    ∃ lead rows,
      Rows EndsInConnective (cells text) lead rows ∧
        rows.map (fun row => Cell.chars row.line) = lines := by
  induction broken with
  | @blank text spaces =>
      exact ⟨cells text, [], .blank (isSpace_of_mem_cells spaces), rfl⟩
  | @last lead line trail leadBlank _ trailBlank =>
      refine ⟨cells lead,
        [⟨cells line, cellsFrom (Quotation.outside.after line) trail⟩], ?_, ?_⟩
      · rw [cells_spaces_append leadBlank, Text.cells_append]
        apply Rows.last (isSpace_of_mem_cells leadBlank)
        intro cell member
        exact trailBlank cell.char (Text.char_mem_of_mem_cellsFrom member)
      · simp [cells]
  | @cons lead line rest lines leadBlank _ ends _ inductionHypothesis =>
      obtain ⟨otherLead, rows, made, sameLines⟩ := inductionHypothesis
      refine ⟨cells lead, ⟨cells line, otherLead⟩ :: rows, ?_, ?_⟩
      · rw [cells_spaces_append leadBlank, ends.cells_append]
        exact @Rows.cons _ _ _ [] _ _ _ (isSpace_of_mem_cells leadBlank)
          ends.endsInConnective (by simp) made
      · simp [cells, sameLines]

/-- Every line of a broken text is trimmed and visible. -/
theorem Broken.isLine
    {text : List Char}
    {lines : List (List Char)}
    (broken : Broken text lines) :
    ∀ line ∈ lines, IsLine line := by
  induction broken with
  | blank _ =>
      simp
  | last _ isLine _ =>
      simpa using isLine
  | cons _ isLine _ _ inductionHypothesis =>
      exact List.forall_mem_cons.mpr ⟨isLine, inductionHypothesis⟩

/-- Only a blank text has no lines. -/
theorem Broken.eq_nil_iff
    {text : List Char}
    {lines : List (List Char)}
    (broken : Broken text lines) :
    lines = [] ↔ ∀ c ∈ text, isSpace c = true := by
  refine ⟨?_, broken.eq_nil_of_blank⟩
  rintro rfl
  cases broken with
  | blank spaces =>
      exact spaces

/-! ## Rows behind groups -/

/-- Only the white space in front is cut off a line that ends behind a group. -/
theorem Segment.AfterGroup.exists_trimLine
    {segment : Segment}
    (afterGroup : segment.AfterGroup)
    (line : List Cell) :
    ∃ lead,
      line ++ segment.body ++ segment.closing =
          lead ++ trimLine (line ++ segment.body ++ segment.closing) ∧
        (∀ cell ∈ lead, cell.isSpace = true) ∧
        EndsBehindGroup (trimLine (line ++ segment.body ++ segment.closing)) := by
  obtain ⟨body, bodyShape⟩ := List.getLast?_eq_some_iff.mp afterGroup.group
  obtain ⟨blanks, left, right, closingShape, areBlank, joins⟩ := afterGroup.connective
  obtain ⟨c, isConnective, rfl, rfl⟩ := Token.exists_plain_of_connective? joins
  have visible : (Cell.plain c).isSpace = false := by
    rcases isConnective with rfl | rfl <;>
      decide
  have whole :
      line ++ segment.body ++ segment.closing =
        (line ++ body) ++ .plain ')' :: (blanks ++ [.plain c, .plain c]) := by
    simp [bodyShape, closingShape]
  have trimmed :=
    @Text.trimBy_append_cons_of_kept _ Cell.isSpace (.plain ')') (line ++ body)
      (blanks ++ [.plain c, .plain c]) (by decide)
      (by simpa [List.getLast?_cons] using visible)
  rw [whole, trimLine, trimmed]
  refine ⟨(line ++ body).takeWhile Cell.isSpace, ?_,
    List.all_eq_true.mp List.all_takeWhile, ?_⟩
  · rw [← List.append_assoc, List.takeWhile_append_dropWhile]
  · exact ⟨_, blanks, c, areBlank, isConnective, rfl⟩

/-- Lines filled with segments that end behind groups, and what is left, are rows. -/
theorem exists_rows_fill
    (ends : List Cell → Segment → Bool)
    (tail : List Cell)
    {segments : List Segment}
    (afterGroup : ∀ segment ∈ segments, segment.AfterGroup)
    (line : List Cell) :
    ∃ lead rows,
      Rows EndsBehindGroup (line ++ (segments.flatMap Segment.cells ++ tail)) lead rows ∧
        rows.map Row.line = fill ends tail line segments := by
  induction segments generalizing line with
  | nil =>
      rw [fill, List.flatMap_nil, List.nil_append]
      generalize line ++ tail = last
      split
      case isTrue blank =>
        exact ⟨last, [], .blank (List.all_eq_true.mp blank), rfl⟩
      case isFalse visible =>
        obtain ⟨lead, trail, whole, leadBlank, trailBlank, _⟩ :=
          @Text.exists_append_trimBy_append _ Cell.isSpace last (by simpa using visible)
        refine ⟨lead, [⟨trimLine last, trail⟩], ?_, rfl⟩
        conv =>
          arg 2
          rw [whole]
        exact .last leadBlank trailBlank
  | cons segment others inductionHypothesis =>
      rw [List.forall_mem_cons] at afterGroup
      obtain ⟨segmentAfter, othersAfter⟩ := afterGroup
      rw [fill]
      split
      · obtain ⟨lead, whole, leadBlank, lineEnds⟩ := segmentAfter.exists_trimLine line
        obtain ⟨otherLead, rows, made, sameLines⟩ := inductionHypothesis othersAfter []
        have withFirst := Rows.cons leadBlank lineEnds segmentAfter.gap made
        have sameText :
            line ++ ((segment :: others).flatMap Segment.cells ++ tail) =
              lead ++
                (trimLine (line ++ segment.body ++ segment.closing) ++
                  (segment.gap ++ ([] ++ (others.flatMap Segment.cells ++ tail)))) := by
          rw [← List.append_assoc lead, ← whole]
          simp [Segment.cells]
        rw [sameText]
        exact ⟨lead, _, withFirst, congrArg (List.cons _) sameLines⟩
      · obtain ⟨lead, rows, made, sameLines⟩ :=
          inductionHypothesis othersAfter (line ++ segment.cells)
        exact ⟨lead, rows, by simpa using made, sameLines⟩

/-! ## Lines of a text -/

/--
Lines that are an exact segmentation of a text.  A text that is too long for one line
has lines without white space around them, and none at all if it is blank.
-/
structure ExactLines
    (ending : List Cell → Prop)
    (widths : Widths)
    (text : String)
    (lines : List String) :
    Prop where
  rows :
    ∃ lead rows,
      Rows ending (cells text.toList) lead rows ∧ rows.map Row.text = lines
  trimmed : widths.line < text.length → ∀ line ∈ lines, IsLine line.toList
  none : lines = [] ↔ widths.line < text.length ∧ Text.isBlankText text = true

/-- A text that fits is its own line. -/
theorem ExactLines.single
    (ending : List Cell → Prop)
    {widths : Widths}
    {text : String}
    (short : text.length ≤ widths.line) :
    ExactLines ending widths text [text] := by
  have notLong : ¬ widths.line < text.length := Int.not_lt.mpr short
  refine ⟨⟨[], [⟨cells text.toList, []⟩], ?_, ?_⟩, ?_, ?_⟩
  · have made := @Rows.last ending [] (cells text.toList) [] (by simp) (by simp)
    simpa using made
  · simp [Row.text, Cell.text, cells]
  · intro long
    exact (notLong long).elim
  · simp [notLong]

/-- A text that is too long has the lines of its rows. -/
theorem ExactLines.of_broken
    {ending : List Cell → Prop}
    {widths : Widths}
    {text : String}
    {lines : List (List Char)}
    (long : widths.line < text.length)
    (broken : Broken text.toList lines)
    (rows :
      ∃ lead rows,
        Rows ending (cells text.toList) lead rows ∧
          rows.map (fun row => Cell.chars row.line) = lines) :
    ExactLines ending widths text (lines.map String.ofList) := by
  refine ⟨?_, ?_, ?_⟩
  · obtain ⟨lead, rows, made, rfl⟩ := rows
    exact ⟨lead, rows, made, by simp [Row.text, Cell.text]⟩
  · intro _ line member
    obtain ⟨chars, inLines, rfl⟩ := List.mem_map.mp member
    rw [String.toList_ofList]
    exact broken.isLine chars inLines
  · rw [List.map_eq_nil_iff, broken.eq_nil_iff, Text.isBlankText, List.all_eq_true,
      and_iff_right long]

/-- Breaking a text ends its lines at connectives. -/
theorem exactLines_breakLines
    (widths : Widths)
    (text : String) :
    ExactLines EndsInConnective widths text (breakLines widths text) := by
  by_cases short : (text.length : Int) ≤ widths.line
  · have single : breakLines widths text = [text] := by
      simp [breakLines, lines, String.length_toList, short]
    rw [single]
    exact .single _ short
  · have long : widths.line < text.length := Int.not_le.mp short
    have broken := @broken_lines widths text.toList (by rwa [String.length_toList])
    exact .of_broken long broken broken.exists_rows

/-- Breaking a text at groups ends its lines behind groups. -/
theorem exactLines_breakAtGroups
    (widths : Widths)
    (text : String) :
    ExactLines EndsBehindGroup widths text (breakAtGroups widths text) := by
  by_cases short : (text.length : Int) ≤ widths.line
  · have single : breakAtGroups widths text = [text] := by
      simp [breakAtGroups, linesAtGroups, String.length_toList, short]
    rw [single]
    exact .single _ short
  · have long : widths.line < text.length := Int.not_le.mp short
    obtain ⟨whole, afterGroup⟩ := cutAtGroups_sound 0 (cells text.toList)
    have sound := fun segment member => (afterGroup segment member).sound
    rw [breakAtGroups, linesAtGroups, if_neg (by rwa [String.length_toList])]
    apply ExactLines.of_broken long
    · exact @broken_fill _ _ _ sound [] (fun ends => ends) _ whole.symm
    · obtain ⟨lead, rows, made, sameLines⟩ := exists_rows_fill _ _ afterGroup []
      rw [List.nil_append, ← Segmented.cells, whole] at made
      have sameChars := congrArg (List.map Cell.chars) sameLines
      rw [List.map_map] at sameChars
      exact ⟨lead, rows, made, sameChars⟩

/--
Breaking a text, at connectives or at groups and whatever the widths, segments it
exactly: nothing but white space is lost, and a line ends only in a connective that
the text does not quote, at groups even behind a parenthesis.
-/
theorem breakLines_segment_exactly
    (widths : Widths)
    (text : String) :
    ExactLines EndsInConnective widths text (breakLines widths text) ∧
      ExactLines EndsBehindGroup widths text (breakAtGroups widths text) :=
  ⟨exactLines_breakLines widths text, exactLines_breakAtGroups widths text⟩

/-- A connective in a quotation ends no line, and one that a tab parts from its group does. -/
theorem breakLines_segment_exactly_of_tab :
    breakAtGroups ⟨8, 4, 4⟩ " (a || '&& b')\t&&  c || d" =
        ["(a || '&& b')\t&&", "c || d"] ∧
      ∃ lead rows,
        Rows EndsBehindGroup (cells " (a || '&& b')\t&&  c || d".toList) lead rows ∧
          rows.map Row.text = ["(a || '&& b')\t&&", "c || d"] := by
  have lines :
      breakAtGroups ⟨8, 4, 4⟩ " (a || '&& b')\t&&  c || d" =
        ["(a || '&& b')\t&&", "c || d"] := by
    decide +kernel
  have segmented :=
    (breakLines_segment_exactly ⟨8, 4, 4⟩ " (a || '&& b')\t&&  c || d").2.rows
  rw [lines] at segmented
  exact ⟨lines, segmented⟩

end WorkflowConditions.Layout
