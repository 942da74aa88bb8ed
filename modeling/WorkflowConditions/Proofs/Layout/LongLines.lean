import WorkflowConditions.Proofs.Layout.Places
import WorkflowConditions.Proofs.Layout.Rows
import WorkflowConditions.Settings.Basic

namespace WorkflowConditions.Layout

open Text (Cell Quotation cells cellsFrom isSpace)

/-!
# Lines that stay long

Breaking cannot keep every line within the longest line that is left alone, but it
keeps all connectives inside a line within the length at which connectives end lines.
A text that is too long for one line is printed as a line exactly when its connectives
and its outermost groups keep within their lengths.  Such a line is therefore left as
it is when it is broken again.
-/

/-! ## Lines are read as they stand in their text -/

/-- Cells that a reader finds in some text. -/
def IsRead (line : List Cell) : Prop :=
  ∃ text, cells text = line

namespace IsRead

variable
  {line first second : List Cell}

/-- Such cells are found again in their own characters. -/
theorem cells_chars
    (isRead : IsRead line) :
    cells (Cell.chars line) = line := by
  obtain ⟨text, rfl⟩ := isRead
  simp [cells]

/-- The front of what a reader finds is found in the front of the text. -/
theorem left
    (isRead : IsRead (first ++ second)) :
    IsRead first := by
  obtain ⟨text, whole⟩ := isRead
  obtain ⟨front, _, _, frontCells, _⟩ := exists_split_of_cells_eq whole
  exact ⟨front, frontCells⟩

/-- Behind a connective the reader is outside every quotation. -/
theorem behind_connective
    (ends : EndsAtConnective first)
    (isRead : IsRead (first ++ second)) :
    IsRead second := by
  obtain ⟨text, whole⟩ := isRead
  obtain ⟨front, rest, _, rfl, restCells⟩ := exists_split_of_cells_eq whole
  rw [ends.leaves_outside] at restCells
  exact ⟨rest, restCells⟩

/-- White space leaves the reader outside, so what follows it is read on its own. -/
theorem behind_spaces
    (blank : ∀ cell ∈ first, cell.isSpace = true)
    (isRead : IsRead (first ++ second)) :
    IsRead second := by
  obtain ⟨text, whole⟩ := isRead
  obtain ⟨front, rest, _, rfl, restCells⟩ := exists_split_of_cells_eq whole
  have frontBlank : ∀ c ∈ front, isSpace c = true := by
    intro c member
    rw [← Text.chars_cellsFrom .outside front] at member
    obtain ⟨cell, inFront, rfl⟩ := List.mem_map.mp member
    exact blank cell inFront
  rw [Quotation.after_outside_spaces frontBlank] at restCells
  exact ⟨rest, restCells⟩

/-- Trimming a line cuts off white space only, so the line is still read as it stands. -/
theorem trimmed
    (visible : ∃ cell ∈ line, cell.isSpace = false)
    (isRead : IsRead line) :
    IsRead (trimLine line) := by
  obtain ⟨lead, trail, whole, leadBlank, _, _⟩ :=
    @Text.exists_append_trimBy_append _ Cell.isSpace _ visible
  rw [whole] at isRead
  exact (isRead.behind_spaces leadBlank).left

end IsRead

/-- Reading a line of a text afresh gives the cells that it was filled with. -/
theorem cells_mem_fill
    {ends : List Cell → Segment → Bool}
    {tail : List Cell}
    {segments : List Segment}
    {text line : List Char}
    (whole : cells text = segments.flatMap Segment.cells ++ tail)
    (sound : ∀ segment ∈ segments, segment.Sound)
    (member : line ∈ (fill ends tail [] segments).map Cell.chars) :
    cells line ∈ fill ends tail [] segments := by
  let Begins (line : List Cell) (segments : List Segment) : Prop :=
    IsRead (line ++ (segments.flatMap Segment.cells ++ tail)) ∧
      (∀ later, EndsAtConnective later → EndsAtConnective (line ++ later)) ∧
      ∀ segment ∈ segments, segment.Sound
  have allRead : ∀ filled ∈ fill ends tail [] segments, IsRead filled := by
    apply @forall_mem_fill ends tail Begins IsRead
    · rintro line ⟨isRead, _, _⟩ visible
      exact isRead.trimmed visible
    · rintro line segment others ⟨isRead, begun, sound⟩ _
      obtain ⟨segmentSound, othersSound⟩ := List.forall_mem_cons.mp sound
      have lineEnds := begun _ segmentSound.ends
      have inText :
          line ++ ((segment :: others).flatMap Segment.cells ++ tail) =
            (line ++ (segment.body ++ segment.closing)) ++
              (segment.gap ++ (others.flatMap Segment.cells ++ tail)) := by
        simp [Segment.cells]
      rw [inText] at isRead
      obtain ⟨cell, last, visible⟩ := lineEnds.exists_visible_last
      constructor
      · exact isRead.left.trimmed ⟨cell, List.mem_of_getLast? last, visible⟩
      · exact ⟨(isRead.behind_connective lineEnds).behind_spaces segmentSound.gap,
          fun _ later => later, othersSound⟩
    · rintro line segment others ⟨isRead, begun, sound⟩ _
      obtain ⟨segmentSound, othersSound⟩ := List.forall_mem_cons.mp sound
      refine ⟨by simpa using isRead, ?_, othersSound⟩
      intro later laterEnds
      have appended := begun _ (segmentSound.ends.append segmentSound.gap laterEnds)
      simpa [Segment.cells] using appended
    · exact ⟨⟨text, whole⟩, fun _ later => later, sound⟩
  obtain ⟨filled, inFill, rfl⟩ := List.mem_map.mp member
  rwa [(allRead filled inFill).cells_chars]

/-! ## Lengths within which places keep -/

/-- Every connective inside a line ends within a length. -/
def ConnectivesWithin
    (bound : Int)
    (line : List Cell) :
    Prop :=
  ∀ front rest,
    line = front ++ rest →
    rest ≠ [] →
    EndsAtConnective front →
    (front.length : Int) ≤ bound

/-- Every outermost group inside a line that a connective follows ends within a length. -/
def GroupsWithin
    (bound : Int)
    (line : List Cell) :
    Prop :=
  ∀ group link rest,
    line = group ++ (link ++ rest) →
    rest ≠ [] →
    ClosesGroup 0 group →
    IsLink link →
    (group.length : Int) ≤ bound

/-- A line starts with something visible. -/
theorem IsLine.head?_cells
    {line : List Char}
    (isLine : IsLine line) :
    ∃ cell ∈ (cells line).head?, cell.isSpace = false := by
  obtain ⟨c, first, visible⟩ := isLine.begins
  cases line with
  | nil =>
      cases first
  | cons head rest =>
      obtain rfl := Option.some.inj first
      exact ⟨_, rfl, visible⟩

/-- A line has nothing to trim. -/
theorem IsLine.trimLine_cells
    {line : List Char}
    (isLine : IsLine line) :
    trimLine (cells line) = cells line := by
  obtain ⟨first, isFirst, visible⟩ := isLine.head?_cells
  apply Text.trimBy_eq_self
  · intro cell isHead
    exact Option.mem_unique isFirst isHead ▸ visible
  · intro cell last
    apply isLine.ends cell.char
    rw [← Text.chars_cellsFrom .outside line, Cell.chars, List.getLast?_map]
    exact Option.mem_map_of_mem Cell.char last

/-- The first rule measures a line that begins with something visible as it stands. -/
theorem holds_connectives_iff
    {bound : Int}
    {line : List Char}
    (isLine : IsLine line) :
    (Rule.connectives bound).Holds (cells line) ↔ ConnectivesWithin bound (cells line) := by
  have measured
      {front rest : List Cell}
      (shape : cells line = front ++ rest)
      (ends : EndsAtConnective front) :
      trimLine front = front := by
    obtain ⟨first, isFirst, visible⟩ := isLine.head?_cells
    apply Text.trimBy_eq_self
    · intro cell isHead
      rw [shape, List.head?_append_of_ne_nil _ ends.ne_nil] at isFirst
      exact Option.mem_unique isFirst isHead ▸ visible
    · intro cell last
      obtain ⟨other, isLast, visible⟩ := ends.exists_visible_last
      exact Option.mem_unique isLast last ▸ visible
  constructor
  · intro holds front rest shape inside ends
    have notBeyond := holds front rest shape inside ends
    simp only [Rule.connectives, measured shape ends] at notBeyond
    exact Int.not_lt.mp notBeyond
  · intro within front rest shape inside ends beyond
    simp only [Rule.connectives] at ends beyond
    rw [measured shape ends] at beyond
    exact Int.not_lt.mpr (within front rest shape inside ends) beyond

/-- The rule for groups keeps to a line exactly when its groups end within the length. -/
theorem holds_groups_iff
    {bound : Int}
    {line : List Cell} :
    (Rule.groups bound).Holds line ↔ GroupsWithin bound line := by
  constructor
  · intro holds group link rest shape inside closes isLink
    by_contra beyond
    rw [← List.append_assoc] at shape
    exact holds (group ++ link) rest shape inside ⟨group, link, rfl, closes, isLink⟩
      ⟨group, link, rfl, closes.closing, isLink, Int.not_le.mp beyond⟩
  · rintro within front rest shape inside ⟨group, link, rfl, closes, isLink⟩ ends
    obtain ⟨other, otherLink, same, closing, isOther, beyond⟩ := ends
    obtain ⟨rfl, _⟩ :=
      eq_of_last_closing same closes.closing closing isLink.closing_not_mem
        isOther.closing_not_mem
    rw [List.append_assoc] at shape
    exact Int.not_lt.mpr (within group link rest shape inside closes isLink) beyond

/-! ## Both ways of breaking -/

/-- Filling at connectives ends a line where the rule for connectives does. -/
theorem decides_connectives
    (widths : Widths)
    (segments : List Segment) :
    (Rule.connectives widths.connective).Decides
      (fun line segment =>
        widths.connective <
          ((trimLine (line ++ segment.body ++ segment.closing)).length : Int))
      segments := by
  intro line segment _
  simp [Rule.connectives]

/-- Filling at groups ends a line where the rule for groups does. -/
theorem decides_groups
    (widths : Widths)
    {segments : List Segment}
    (afterGroup : ∀ segment ∈ segments, segment.AfterGroup) :
    (Rule.groups widths.group).Decides
      (fun line segment => widths.group < ((line ++ segment.body).length : Int))
      segments := by
  intro line segment member
  have group := (afterGroup segment member).group
  obtain ⟨blanks, left, right, shape, blank, joins⟩ := (afterGroup segment member).connective
  obtain ⟨c, isConnective, rfl, rfl⟩ := Token.exists_plain_of_connective? joins
  have isLink : IsLink segment.closing := ⟨blanks, c, blank, isConnective, shape⟩
  have closing : (line ++ segment.body).getLast? = some (.plain ')') := by
    simp [group]
  rw [decide_eq_true_iff]
  constructor
  · intro beyond
    exact ⟨line ++ segment.body, segment.closing, by simp, closing, isLink, beyond⟩
  · rintro ⟨other, link, same, otherClosing, isOther, beyond⟩
    rw [← List.append_assoc] at same
    obtain ⟨rfl, _⟩ :=
      eq_of_last_closing same closing otherClosing isLink.closing_not_mem
        isOther.closing_not_mem
    exact beyond

/-- No line of the first pass has a connective beyond its length. -/
theorem connectivesWithin_of_mem_linesAtConnectives
    {widths : Widths}
    {text line : List Char}
    (member : line ∈ linesAtConnectives widths text) :
    ConnectivesWithin widths.connective (cells line) := by
  obtain ⟨whole, sound⟩ := cutAtConnectives_sound (cells text)
  have isLine := (broken_linesAtConnectives widths text).isLine line member
  have filled := cells_mem_fill whole.symm sound member
  apply (holds_connectives_iff isLine).mp
  exact Rule.holds_of_mem_fill (cutAtConnectives_cutAt (cells text))
    (decides_connectives widths _) (cells line) filled

/-- No line of the second pass has a group beyond its length. -/
theorem groupsWithin_of_mem_linesAtGroups
    {widths : Widths}
    {text line : List Char}
    (long : widths.line < text.length)
    (member : line ∈ linesAtGroups widths text) :
    GroupsWithin widths.group (cells line) := by
  obtain ⟨whole, afterGroup⟩ := cutAtGroups_sound 0 (cells text)
  rw [linesAtGroups, if_neg (Int.not_le.mpr long)] at member
  have filled :=
    cells_mem_fill whole.symm (fun segment inCut => (afterGroup segment inCut).sound) member
  apply holds_groups_iff.mp
  exact Rule.holds_of_mem_fill (cutAtGroups_cutAt 0 (cells text))
    (decides_groups widths afterGroup) (cells line) filled

/-- A line that holds by a rule is the only line that is filled with its text. -/
theorem Rule.Holds.map_chars_fill
    {rule : Rule}
    {ends : List Cell → Segment → Bool}
    {cut : Segmented}
    {line : List Char}
    (holds : rule.Holds (cells line))
    (isLine : IsLine line)
    (whole : cut.cells = cells line)
    (cutAt : CutAt rule.Place cut.tail rule.Place cut.segments)
    (decides : rule.Decides ends cut.segments) :
    (fill ends cut.tail [] cut.segments).map Cell.chars = [line] := by
  obtain ⟨cell, first, visible⟩ := isLine.head?_cells
  have filled : fill ends cut.tail [] cut.segments = [cells line] :=
    Rule.fill_eq_singleton cutAt decides (fun _ _ => Iff.rfl) whole.symm
      ⟨cell, List.mem_of_mem_head? first, visible⟩ isLine.trimLine_cells holds
  rw [filled, List.map_singleton, cells, Text.chars_cellsFrom]

/-- The first pass keeps a line whose connectives end within the length. -/
theorem linesAtConnectives_eq_singleton
    {widths : Widths}
    {line : List Char}
    (isLine : IsLine line)
    (within : ConnectivesWithin widths.connective (cells line)) :
    linesAtConnectives widths line = [line] :=
  ((holds_connectives_iff isLine).mpr within).map_chars_fill isLine
    (cutAtConnectives_sound (cells line)).1 (cutAtConnectives_cutAt (cells line))
    (decides_connectives widths _)

/-- The second pass keeps a line whose groups end within the length. -/
theorem linesAtGroups_eq_singleton
    {widths : Widths}
    {line : List Char}
    (isLine : IsLine line)
    (within : GroupsWithin widths.group (cells line)) :
    linesAtGroups widths line = [line] := by
  obtain ⟨whole, afterGroup⟩ := cutAtGroups_sound 0 (cells line)
  by_cases short : (line.length : Int) ≤ widths.line
  · exact if_pos short
  · rw [linesAtGroups, if_neg short]
    exact (holds_groups_iff.mpr within).map_chars_fill isLine whole
      (cutAtGroups_cutAt 0 (cells line)) (decides_groups widths afterGroup)

/-! ## Lines of a text -/

/-- A line of a broken text is a part of it, and its connectives are connectives there. -/
theorem Broken.exists_part
    {text line : List Char}
    {lines : List (List Char)}
    (broken : Broken text lines)
    (member : line ∈ lines) :
    ∃ before after,
      text = before ++ (line ++ after) ∧
        ∀ front,
          EndsAtConnective (cells front) →
          EndsAtConnective (cells (before ++ front)) := by
  induction broken with
  | blank _ =>
      cases member
  | @last lead _ trail leadBlank _ _ =>
      obtain rfl := List.mem_singleton.mp member
      refine ⟨lead, trail, rfl, ?_⟩
      intro front frontEnds
      rw [cells_spaces_append leadBlank]
      exact frontEnds.spaces_append (isSpace_of_mem_cells leadBlank)
  | @cons lead first rest others leadBlank _ firstEnds _ inductionHypothesis =>
      rcases List.mem_cons.mp member with rfl | inOthers
      · refine ⟨lead, rest, rfl, ?_⟩
        intro front frontEnds
        rw [cells_spaces_append leadBlank]
        exact frontEnds.spaces_append (isSpace_of_mem_cells leadBlank)
      · obtain ⟨before, after, rfl, kept⟩ := inductionHypothesis inOthers
        refine ⟨lead ++ (first ++ before), after, by simp, ?_⟩
        intro front frontEnds
        have regrouped :
            lead ++ (first ++ before) ++ front = lead ++ (first ++ (before ++ front)) := by
          simp
        rw [regrouped, cells_spaces_append leadBlank, firstEnds.cells_append]
        apply EndsAtConnective.spaces_append (isSpace_of_mem_cells leadBlank)
        exact @EndsAtConnective.append _ _ firstEnds [] (by simp) (kept front frontEnds)

/-- Breaking a line once more keeps its connectives within their length. -/
theorem ConnectivesWithin.of_broken
    {bound : Int}
    {text line : List Char}
    {lines : List (List Char)}
    (within : ConnectivesWithin bound (cells text))
    (broken : Broken text lines)
    (member : line ∈ lines) :
    ConnectivesWithin bound (cells line) := by
  obtain ⟨before, after, rfl, kept⟩ := broken.exists_part member
  intro front rest shape inside ends
  obtain ⟨frontChars, restChars, rfl, rfl, restCells⟩ := exists_split_of_cells_eq shape
  have inText :
      cells (before ++ (frontChars ++ restChars ++ after)) =
        cells (before ++ frontChars) ++
          cellsFrom (Quotation.outside.after (before ++ frontChars))
            (restChars ++ after) := by
    rw [← Text.cells_append]
    simp
  have behindNonempty :
      cellsFrom (Quotation.outside.after (before ++ frontChars)) (restChars ++ after) ≠
        [] := by
    intro nothing
    have noChars := congrArg List.length nothing
    have someCells := List.length_pos_iff.mpr inside
    rw [← restCells] at someCells
    simp only [Text.length_cellsFrom, List.length_append, List.length_nil] at noChars someCells
    omega
  have atMost := within _ _ inText behindNonempty (kept frontChars ends)
  simp only [Text.length_cells, List.length_append] at atMost ⊢
  omega

/-- The second pass cuts lines of the first, so their connectives still end within the length. -/
theorem connectivesWithin_of_mem_lines
    {widths : Widths}
    {text line : List Char}
    (long : widths.line < text.length)
    (member : line ∈ lines widths text) :
    ConnectivesWithin widths.connective (cells line) := by
  rw [lines, if_neg (Int.not_le.mpr long)] at member
  obtain ⟨first, inFirst, inSecond⟩ := List.mem_flatMap.mp member
  have isLine := (broken_linesAtConnectives widths text).isLine first inFirst
  exact (connectivesWithin_of_mem_linesAtConnectives inFirst).of_broken
    (broken_linesAtGroups widths isLine) inSecond

/-- A text that is left alone has no line longer than itself. -/
theorem overlong_of_mem_lines
    {widths : Widths}
    {text line : List Char}
    (long : widths.line < line.length)
    (member : line ∈ lines widths text) :
    widths.line < text.length := by
  by_contra short
  rw [lines, if_pos (Int.not_lt.mp short)] at member
  obtain rfl := List.mem_singleton.mp member
  exact short long

/-- A line that is longer than a text that is left alone has been broken at groups. -/
theorem groupsWithin_of_mem_lines
    {widths : Widths}
    {text line : List Char}
    (long : widths.line < line.length)
    (member : line ∈ lines widths text) :
    GroupsWithin widths.group (cells line) := by
  have textLong := overlong_of_mem_lines long member
  rw [lines, if_neg (Int.not_le.mpr textLong)] at member
  obtain ⟨first, _, inSecond⟩ := List.mem_flatMap.mp member
  by_cases short : (first.length : Int) ≤ widths.line
  · rw [linesAtGroups, if_pos short] at inSecond
    obtain rfl := List.mem_singleton.mp inSecond
    exact (Int.not_lt.mpr short long).elim
  · exact groupsWithin_of_mem_linesAtGroups (Int.not_le.mp short) inSecond

/-- A line in which neither a connective nor an outermost group reaches too far. -/
structure WithinWidths
    (widths : Widths)
    (line : List Char) :
    Prop where
  isLine : IsLine line
  connectives : ConnectivesWithin widths.connective (cells line)
  groups : GroupsWithin widths.group (cells line)

/-- A line that is still too long has nothing left at which it could be broken. -/
theorem withinWidths_of_mem_lines
    {widths : Widths}
    {text line : List Char}
    (long : widths.line < line.length)
    (member : line ∈ lines widths text) :
    WithinWidths widths line := by
  have textLong := overlong_of_mem_lines long member
  exact ⟨(broken_lines textLong).isLine line member,
    connectivesWithin_of_mem_lines textLong member,
    groupsWithin_of_mem_lines long member⟩

/-- A line that keeps within the widths is left as it is, however long it is. -/
theorem WithinWidths.lines_eq
    {widths : Widths}
    {line : List Char}
    (within : WithinWidths widths line) :
    lines widths line = [line] := by
  by_cases short : (line.length : Int) ≤ widths.line
  · exact if_pos short
  · rw [lines, if_neg short,
      linesAtConnectives_eq_singleton within.isLine within.connectives,
      List.flatMap_singleton, linesAtGroups_eq_singleton within.isLine within.groups]

theorem mem_breakLines_iff
    {widths : Widths}
    {text line : String} :
    line ∈ breakLines widths text ↔ line.toList ∈ lines widths text.toList := by
  rw [breakLines, List.mem_map]
  constructor
  · rintro ⟨chars, member, rfl⟩
    rwa [String.toList_ofList]
  · intro member
    exact ⟨line.toList, member, String.ofList_toList⟩

/--
A text that is too long for a line is printed as one exactly when it has no white
space around it, none of its connectives but a closing one ends beyond the length for
connectives, and none of its outermost groups that a connective follows inside the
text ends beyond the length for groups.
-/
theorem exists_mem_breakLines_iff_of_overlong
    (widths : Widths)
    {line : String}
    (long : widths.line < line.length) :
    (∃ text, line ∈ breakLines widths text) ↔ WithinWidths widths line.toList := by
  rw [← String.length_toList] at long
  constructor
  · rintro ⟨text, member⟩
    exact withinWidths_of_mem_lines long (mem_breakLines_iff.mp member)
  · intro within
    refine ⟨line, mem_breakLines_iff.mpr ?_⟩
    simp [within.lines_eq]

/-- A line that is left behind another one, with a group and connectives inside. -/
theorem exists_mem_breakLines_iff_of_overlong_group :
    (20 : Int) < "(aa || b) && ccccccccccccc".length ∧
      WithinWidths ⟨20, 12, 10⟩ "(aa || b) && ccccccccccccc".toList := by
  have long : (20 : Int) < "(aa || b) && ccccccccccccc".length := by
    decide
  have printed :
      "(aa || b) && ccccccccccccc" ∈
        breakLines ⟨20, 12, 10⟩ "first_operand && (aa || b) && ccccccccccccc" := by
    decide +kernel
  exact ⟨long, (exists_mem_breakLines_iff_of_overlong ⟨20, 12, 10⟩ long).mp ⟨_, printed⟩⟩

/-- Two operands that fit a line each, but not together. -/
def unequalOperands : List Char :=
  List.replicate 90 'a' ++ ([' ', '&', '&', ' '] ++ List.replicate 90 'b')

/--
The usual widths, which are valid settings, leave the two operands on one line,
although there is a connective between them.
-/
theorem breakLines_keeps_breakable_line :
    Settings.readWidths [] = .ok .standard ∧
      breakLines .standard (String.ofList unequalOperands) =
        [String.ofList unequalOperands] ∧
      Widths.standard.line < (String.ofList unequalOperands).length ∧
      ∃ front rest,
        cells unequalOperands = front ++ rest ∧ rest ≠ [] ∧ EndsAtConnective front := by
  have unbroken : lines .standard unequalOperands = [unequalOperands] := by
    decide +kernel
  have halves :
      cells unequalOperands =
        ((List.replicate 90 (.plain 'a') ++ [.plain ' ']) ++
            [.plain '&', .plain '&']) ++
          (.plain ' ' :: List.replicate 90 (.plain 'b')) := by
    decide +kernel
  refine ⟨rfl, ?_, ?_, _, _, halves, by simp, ?_⟩
  · rw [breakLines, String.toList_ofList, unbroken, List.map_singleton]
  · rw [String.length_ofList]
    decide +kernel
  · apply EndsAtConnective.append_left (.here rfl)
    simp [Cell.plain]

/-- Every line of a text is left as it is when it is broken by the same widths again. -/
theorem breakLines_eq_singleton_of_mem
    {widths : Widths}
    {text line : String}
    (member : line ∈ breakLines widths text) :
    breakLines widths line = [line] := by
  have unbroken : lines widths line.toList = [line.toList] := by
    by_cases short : (line.toList.length : Int) ≤ widths.line
    · exact if_pos short
    · have within :=
        withinWidths_of_mem_lines (Int.not_le.mp short) (mem_breakLines_iff.mp member)
      exact within.lines_eq
  rw [breakLines, unbroken, List.map_singleton, String.ofList_toList]

/-- A line with a group, connectives and a quotation that is still too long. -/
theorem breakLines_eq_singleton_of_mem_overlong :
    breakLines ⟨16, 14, 6⟩ "(abcdef) || operand_of_g && (d) || (e || g(x, '&&')" =
        ["(abcdef) ||", "operand_of_g &&", "(d) || (e || g(x, '&&')"] ∧
      breakLines ⟨16, 14, 6⟩ "(d) || (e || g(x, '&&')" = ["(d) || (e || g(x, '&&')"] := by
  have broken :
      breakLines ⟨16, 14, 6⟩ "(abcdef) || operand_of_g && (d) || (e || g(x, '&&')" =
        ["(abcdef) ||", "operand_of_g &&", "(d) || (e || g(x, '&&')"] := by
    decide +kernel
  have last :
      "(d) || (e || g(x, '&&')" ∈
        breakLines ⟨16, 14, 6⟩ "(abcdef) || operand_of_g && (d) || (e || g(x, '&&')" := by
    simp [broken]
  exact ⟨broken, breakLines_eq_singleton_of_mem last⟩

end WorkflowConditions.Layout
