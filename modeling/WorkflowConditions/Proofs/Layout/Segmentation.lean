import WorkflowConditions.Layout.Lines
import WorkflowConditions.Proofs.Token.Respacing

namespace WorkflowConditions.Layout

open Text (Cell Quotation cells cellsFrom isSpace)
open Token (connective?)

/-!
# Lines as a segmentation of a text

Read from left to right, a text is cut only behind connectives that the reader comes
upon, so its lines are consecutive parts of it with white space around them.  Both
ways of cutting have this in common; cutting the lines once more keeps it.
-/

/-- Cells at whose end a reader comes upon a connective. -/
inductive EndsAtConnective : List Cell → Prop where
  | here
      {left right : Cell}
      (joins : (connective? [left, right]).isSome = true) :
      EndsAtConnective [left, right]
  | keep
      {cell : Cell}
      {rest : List Cell}
      (alone : connective? (cell :: rest) = none)
      (later : EndsAtConnective rest) :
      EndsAtConnective (cell :: rest)
  | past
      {left right : Cell}
      {rest : List Cell}
      (joins : (connective? [left, right]).isSome = true)
      (later : EndsAtConnective rest) :
      EndsAtConnective (left :: right :: rest)

/-- A connective is told by two cells. -/
theorem connective?_append_of_ne_nil
    (cell : Cell)
    {rest : List Cell}
    (nonempty : rest ≠ [])
    (following : List Cell) :
    connective? (cell :: (rest ++ following)) = connective? (cell :: rest) := by
  cases rest with
  | nil =>
      exact (nonempty rfl).elim
  | cons next later =>
      rfl

/-- Whether two cells are a connective does not depend on what follows. -/
theorem absurd_alone
    {left right : Cell}
    {rest : List Cell}
    (joins : (connective? [left, right]).isSome = true)
    (alone : connective? (left :: right :: rest) = none) :
    False := by
  rw [show connective? [left, right] = none from alone] at joins
  cases joins

namespace EndsAtConnective

variable
  {first second : List Cell}

theorem ne_nil
    (ends : EndsAtConnective first) :
    first ≠ [] := by
  cases ends <;>
    simp

/-- A front that ends at a connective ends in the second of its characters. -/
theorem getLast?_eq
    (ends : EndsAtConnective first) :
    ∃ c, (c = '&' ∨ c = '|') ∧ first.getLast? = some (.plain c) := by
  induction ends with
  | here joins =>
      obtain ⟨c, isConnective, rfl, rfl⟩ := Token.exists_plain_of_connective? joins
      exact ⟨c, isConnective, rfl⟩
  | keep _ _ inductionHypothesis =>
      obtain ⟨c, isConnective, last⟩ := inductionHypothesis
      exact ⟨c, isConnective, by simp [List.getLast?_cons, last]⟩
  | past _ _ inductionHypothesis =>
      obtain ⟨c, isConnective, last⟩ := inductionHypothesis
      exact ⟨c, isConnective, by simp [List.getLast?_cons, last]⟩

/-- White space in front does not hide a connective at the end. -/
theorem spaces_append
    {spaces : List Cell}
    (blank : ∀ cell ∈ spaces, cell.isSpace = true)
    (ends : EndsAtConnective second) :
    EndsAtConnective (spaces ++ second) := by
  induction spaces with
  | nil =>
      exact ends
  | cons cell rest inductionHypothesis =>
      exact .keep (Token.connective?_space (blank cell (by simp)) _)
        (inductionHypothesis (fun item member => blank item (by simp [member])))

/-- A connective at the end does not begin in white space in front. -/
theorem of_spaces_append
    {spaces : List Cell}
    (blank : ∀ cell ∈ spaces, cell.isSpace = true)
    (ends : EndsAtConnective (spaces ++ second)) :
    EndsAtConnective second := by
  induction spaces with
  | nil =>
      exact ends
  | cons cell rest inductionHypothesis =>
      have alone := Token.connective?_space (blank cell (by simp)) (rest ++ second)
      apply inductionHypothesis (fun item member => blank item (by simp [member]))
      rw [List.cons_append] at ends
      generalize rest ++ second = others at alone ends
      cases ends with
      | here joins =>
          exact (absurd_alone joins alone).elim
      | keep _ later =>
          exact later
      | past joins _ =>
          exact (absurd_alone joins alone).elim

/-- Of two parts that end at a connective both are read as they stand. -/
theorem append
    (firstEnds : EndsAtConnective first)
    {spaces : List Cell}
    (blank : ∀ cell ∈ spaces, cell.isSpace = true)
    (secondEnds : EndsAtConnective second) :
    EndsAtConnective (first ++ (spaces ++ second)) := by
  have behind := secondEnds.spaces_append blank
  induction firstEnds with
  | here joins =>
      exact .past joins behind
  | @keep cell rest alone later inductionHypothesis =>
      exact .keep
        ((connective?_append_of_ne_nil cell later.ne_nil _).trans alone)
        inductionHypothesis
  | past joins _ inductionHypothesis =>
      exact .past joins inductionHypothesis

/-- What follows a part that ends at a connective is read afresh. -/
theorem of_append
    (firstEnds : EndsAtConnective first)
    (ends : EndsAtConnective (first ++ second)) :
    second = [] ∨ EndsAtConnective second := by
  induction firstEnds with
  | @here left right joins =>
      rw [List.cons_append, List.cons_append, List.nil_append] at ends
      cases ends with
      | here _ =>
          exact .inl rfl
      | keep alone _ =>
          exact (absurd_alone joins alone).elim
      | past _ later =>
          exact .inr later
  | @keep cell rest alone later inductionHypothesis =>
      rw [← connective?_append_of_ne_nil cell later.ne_nil second] at alone
      rw [List.cons_append] at ends
      generalize rest ++ second = others at alone ends inductionHypothesis
      cases ends with
      | here joins =>
          exact (absurd_alone joins alone).elim
      | keep _ later =>
          exact inductionHypothesis later
      | past joins _ =>
          exact (absurd_alone joins alone).elim
  | @past left right rest joins later inductionHypothesis =>
      rw [List.cons_append, List.cons_append] at ends
      generalize whole : rest ++ second = others at ends inductionHypothesis
      cases ends with
      | here _ =>
          exact (later.ne_nil (List.append_eq_nil_iff.mp whole).1).elim
      | keep alone _ =>
          exact (absurd_alone joins alone).elim
      | past _ later =>
          exact inductionHypothesis later

/-- A front that ends in no sign of a connective does not disturb reading. -/
theorem append_left
    (ends : EndsAtConnective second)
    (unsigned :
      ∀ cell ∈ first.getLast?,
        cell ≠ .plain '&' ∧ cell ≠ .plain '|') :
    EndsAtConnective (first ++ second) := by
  -- The reader steps over both signs of a connective at once.
  induction first using List.twoStepInduction with
  | nil =>
      exact ends
  | singleton cell =>
      obtain ⟨notAnd, notOr⟩ := unsigned cell rfl
      apply EndsAtConnective.keep _ ends
      cases second <;>
        simp [connective?, notAnd, notOr]
  | cons_cons left right rest afterBoth afterLeft =>
      cases found : connective? [left, right] with
      | none =>
          exact .keep found (afterLeft right (by simpa using unsigned))
      | some kind =>
          have joins : (connective? [left, right]).isSome = true :=
            Option.isSome_iff_exists.mpr ⟨kind, found⟩
          refine .past joins (afterBoth ?_)
          intro cell last
          apply unsigned cell
          cases rest with
          | nil =>
              cases last
          | cons next later =>
              simpa using last

theorem exists_getLast?
    {text : List Char}
    (ends : EndsAtConnective (cells text)) :
    ∃ c, (c = '&' ∨ c = '|') ∧ text.getLast? = some c := by
  obtain ⟨c, isConnective, last⟩ := ends.getLast?_eq
  refine ⟨c, isConnective, ?_⟩
  rw [← Text.chars_cellsFrom .outside text, Cell.chars, List.getLast?_map, ← cells, last]
  rfl

/-- At a connective the reader is outside every quotation. -/
theorem leaves_outside
    {text : List Char}
    (ends : EndsAtConnective (cells text)) :
    Quotation.outside.after text = .outside := by
  obtain ⟨c, isConnective, lastChar⟩ := ends.exists_getLast?
  obtain ⟨_, _, last⟩ := ends.getLast?_eq
  obtain ⟨front, rfl⟩ := List.getLast?_eq_some_iff.mp lastChar
  rw [Text.cells_append, cellsFrom, cellsFrom, List.getLast?_concat] at last
  have uncovered := congrArg Cell.quoted (Option.some.inj last)
  have outside := Quotation.eq_outside_of_covers uncovered
  rw [Quotation.after_append, outside]
  rcases isConnective with rfl | rfl <;>
    rfl

/-- A connective is outside every quotation, so what follows it is read on its own. -/
theorem cells_append
    {front : List Char}
    (ends : EndsAtConnective (cells front))
    (rest : List Char) :
    cells (front ++ rest) = cells front ++ cells rest := by
  rw [Text.cells_append, ends.leaves_outside]
  rfl

end EndsAtConnective

/-- White space leaves the reader outside. -/
theorem cells_spaces_append
    {spaces : List Char}
    (blank : ∀ c ∈ spaces, isSpace c = true)
    (rest : List Char) :
    cells (spaces ++ rest) = cells spaces ++ cells rest := by
  rw [Text.cells_append, Quotation.after_outside_spaces blank]
  rfl

/-- White space is read as white space. -/
theorem isSpace_of_mem_cells
    {spaces : List Char}
    (blank : ∀ c ∈ spaces, isSpace c = true) :
    ∀ cell ∈ cells spaces, cell.isSpace = true :=
  fun cell member => blank cell.char (Text.char_mem_of_mem_cellsFrom member)

/-! ## Lines -/

/-- A line is not empty and has no white space around it. -/
structure IsLine (line : List Char) : Prop where
  begins : ∃ c ∈ line.head?, isSpace c = false
  ends : ∀ c ∈ line.getLast?, isSpace c = false

/-- A line is not blank. -/
theorem IsLine.exists_visible
    {line : List Char}
    (isLine : IsLine line) :
    ∃ c ∈ line, isSpace c = false := by
  obtain ⟨c, first, visible⟩ := isLine.begins
  exact ⟨c, List.mem_of_mem_head? first, visible⟩

/-- A text that is not blank is a line with white space around it. -/
theorem exists_isLine
    {text : List Char}
    (visible : ∃ c ∈ text, isSpace c = false) :
    ∃ lead trail,
      text = lead ++ (Text.trimChars text ++ trail) ∧
        (∀ c ∈ lead, isSpace c = true) ∧
        (∀ c ∈ trail, isSpace c = true) ∧
        IsLine (Text.trimChars text) := by
  obtain ⟨lead, trail, whole, leadBlank, trailBlank, begins⟩ :=
    Text.exists_append_trimBy_append visible
  exact ⟨lead, trail, whole, leadBlank, trailBlank, begins,
    Text.getLast?_trimBy isSpace text⟩

/-- A text that ends at a connective ends visibly. -/
theorem EndsAtConnective.exists_visible_getLast?
    {text : List Char}
    (ends : EndsAtConnective (cells text)) :
    ∃ c, text.getLast? = some c ∧ isSpace c = false := by
  obtain ⟨c, isConnective, last⟩ := ends.exists_getLast?
  refine ⟨c, last, ?_⟩
  rcases isConnective with rfl | rfl <;>
    decide

/-- No white space stands behind a connective at the end. -/
theorem EndsAtConnective.eq_nil_of_spaces
    {front spaces : List Char}
    (ends : EndsAtConnective (cells (front ++ spaces)))
    (blank : ∀ c ∈ spaces, isSpace c = true) :
    spaces = [] := by
  obtain ⟨c, last, visible⟩ := ends.exists_visible_getLast?
  cases spacesLast : spaces.getLast? with
  | none =>
      exact List.getLast?_eq_none_iff.mp spacesLast
  | some d =>
      rw [List.getLast?_append, spacesLast, Option.some_or] at last
      have space := blank d (List.mem_of_getLast? spacesLast)
      rw [Option.some.inj last, visible] at space
      cases space

/-- White space around a line can stand only in front when the whole ends at a connective. -/
theorem EndsAtConnective.of_surrounded
    {lead line trail : List Char}
    (leadBlank : ∀ c ∈ lead, isSpace c = true)
    (trailBlank : ∀ c ∈ trail, isSpace c = true)
    (ends : EndsAtConnective (cells (lead ++ (line ++ trail)))) :
    trail = [] ∧ EndsAtConnective (cells line) := by
  rw [← List.append_assoc] at ends
  obtain rfl := ends.eq_nil_of_spaces trailBlank
  rw [List.append_nil, cells_spaces_append leadBlank] at ends
  exact ⟨rfl, ends.of_spaces_append (isSpace_of_mem_cells leadBlank)⟩

/--
Lines that are consecutive parts of a text, each of them but the last one ending at a
connective, with white space around them.
-/
inductive Broken : List Char → List (List Char) → Prop where
  | blank
      {text : List Char}
      (spaces : ∀ c ∈ text, isSpace c = true) :
      Broken text []
  | last
      {lead line trail : List Char}
      (leadBlank : ∀ c ∈ lead, isSpace c = true)
      (isLine : IsLine line)
      (trailBlank : ∀ c ∈ trail, isSpace c = true) :
      Broken (lead ++ (line ++ trail)) [line]
  | cons
      {lead line rest : List Char}
      {lines : List (List Char)}
      (leadBlank : ∀ c ∈ lead, isSpace c = true)
      (isLine : IsLine line)
      (ends : EndsAtConnective (cells line))
      (later : Broken rest lines) :
      Broken (lead ++ (line ++ rest)) (line :: lines)

namespace Broken

variable
  {text rest : List Char}
  {lines others : List (List Char)}

/-- A line is broken into itself. -/
theorem single
    {line : List Char}
    (isLine : IsLine line) :
    Broken line [line] := by
  have whole := @Broken.last [] line [] (by simp) isLine (by simp)
  simpa using whole

/-- White space in front of a text adds no line. -/
theorem spaces_append
    {spaces : List Char}
    (blank : ∀ c ∈ spaces, isSpace c = true)
    (broken : Broken text lines) :
    Broken (spaces ++ text) lines := by
  cases broken with
  | blank textBlank =>
      exact .blank (List.forall_mem_append.mpr ⟨blank, textBlank⟩)
  | last leadBlank isLine trailBlank =>
      rw [← List.append_assoc]
      exact .last (List.forall_mem_append.mpr ⟨blank, leadBlank⟩) isLine trailBlank
  | cons leadBlank isLine ends later =>
      rw [← List.append_assoc]
      exact .cons (List.forall_mem_append.mpr ⟨blank, leadBlank⟩) isLine ends later

/-- White space behind a text adds no line. -/
theorem append_spaces
    {spaces : List Char}
    (broken : Broken text lines)
    (blank : ∀ c ∈ spaces, isSpace c = true) :
    Broken (text ++ spaces) lines := by
  induction broken with
  | blank textBlank =>
      exact .blank (List.forall_mem_append.mpr ⟨textBlank, blank⟩)
  | last leadBlank isLine trailBlank =>
      rw [List.append_assoc, List.append_assoc]
      exact .last leadBlank isLine (List.forall_mem_append.mpr ⟨trailBlank, blank⟩)
  | cons leadBlank isLine ends _ inductionHypothesis =>
      rw [List.append_assoc, List.append_assoc]
      exact .cons leadBlank isLine ends inductionHypothesis

/-- A blank text has no lines. -/
theorem eq_nil_of_blank
    (broken : Broken text lines)
    (blank : ∀ c ∈ text, isSpace c = true) :
    lines = [] := by
  have impossible
      {lead line back : List Char}
      (isLine : IsLine line)
      (blank : ∀ c ∈ lead ++ (line ++ back), isSpace c = true) :
      False := by
    obtain ⟨c, member, visible⟩ := isLine.exists_visible
    have space := blank c (by simp [member])
    rw [visible] at space
    cases space
  cases broken with
  | blank _ =>
      rfl
  | last _ isLine _ =>
      exact (impossible isLine blank).elim
  | cons _ isLine _ _ =>
      exact (impossible isLine blank).elim

/-- Lines of a part that ends at a connective come before the lines of the rest. -/
theorem append
    (broken : Broken text lines)
    (textEnds : EndsAtConnective (cells text))
    (restBroken : Broken rest others) :
    Broken (text ++ rest) (lines ++ others) := by
  induction broken with
  | @blank text textBlank =>
      obtain rfl := @EndsAtConnective.eq_nil_of_spaces [] _ textEnds textBlank
      exact (textEnds.ne_nil rfl).elim
  | @last lead line trail leadBlank isLine trailBlank =>
      obtain ⟨rfl, lineEnds⟩ :=
        EndsAtConnective.of_surrounded leadBlank trailBlank textEnds
      rw [List.append_nil, List.append_assoc]
      exact .cons leadBlank isLine lineEnds restBroken
  | @cons lead line inner innerLines leadBlank isLine lineEnds later
      inductionHypothesis =>
      rw [cells_spaces_append leadBlank, lineEnds.cells_append] at textEnds
      have afterLead := textEnds.of_spaces_append (isSpace_of_mem_cells leadBlank)
      rw [List.append_assoc, List.append_assoc]
      apply Broken.cons leadBlank isLine lineEnds
      -- Either this line was the last one of its part, or the others follow first.
      rcases lineEnds.of_append afterLead with nothing | innerEnds
      · obtain rfl : inner = [] := by
          simpa using congrArg List.length nothing
        obtain rfl := later.eq_nil_of_blank (by simp)
        exact restBroken
      · exact inductionHypothesis innerEnds

/-- Lines may be broken once more. -/
theorem flatMap
    (broken : Broken text lines)
    {finer : List Char → List (List Char)}
    (refines : ∀ line, IsLine line → Broken line (finer line)) :
    Broken text (lines.flatMap finer) := by
  induction broken with
  | blank textBlank =>
      exact .blank textBlank
  | @last lead line trail leadBlank isLine trailBlank =>
      rw [List.flatMap_singleton]
      exact ((refines line isLine).append_spaces trailBlank).spaces_append leadBlank
  | @cons lead line rest lines leadBlank isLine ends _ inductionHypothesis =>
      rw [List.flatMap_cons]
      exact ((refines line isLine).append ends inductionHypothesis).spaces_append
        leadBlank

end Broken

/-! ## Cutting -/

/-- A segment up to a connective, with white space behind it. -/
structure Segment.Sound (segment : Segment) : Prop where
  ends : EndsAtConnective (segment.body ++ segment.closing)
  gap : ∀ cell ∈ segment.gap, cell.isSpace = true

theorem isBlank_of_mem_takeWhile
    {text : List Cell} :
    ∀ cell ∈ text.takeWhile Cell.isBlank, cell.isBlank = true :=
  List.all_eq_true.mp List.all_takeWhile

theorem isSpace_of_mem_takeWhile
    {text : List Cell} :
    ∀ cell ∈ text.takeWhile Cell.isBlank, cell.isSpace = true :=
  fun cell member => Text.isSpace_of_isBlank (isBlank_of_mem_takeWhile cell member)

/-- A connective takes two cells. -/
theorem exists_of_connective?
    {text : List Cell}
    (found : (connective? text).isSome = true) :
    ∃ left right rest,
      text = left :: right :: rest ∧ (connective? [left, right]).isSome = true := by
  match text with
  | [] | [_] =>
      cases found
  | left :: right :: rest =>
      exact ⟨left, right, rest, rfl, found⟩

/-- A cell that begins no connective joins the first segment. -/
theorem Segmented.sound_cons
    {cell : Cell}
    {cut : Segmented}
    (alone : connective? (cell :: cut.cells) = none)
    (sound : ∀ segment ∈ cut.segments, segment.Sound) :
    ∀ segment ∈ (cut.cons cell).segments, segment.Sound := by
  rcases cut with ⟨_ | ⟨first, others⟩, tail⟩
  · simp [cons]
  · rw [List.forall_mem_cons] at sound
    obtain ⟨firstSound, othersSound⟩ := sound
    have bodyAlone : connective? (cell :: (first.body ++ first.closing)) = none := by
      rw [← connective?_append_of_ne_nil cell firstSound.ends.ne_nil
        (first.gap ++ (others.flatMap Segment.cells ++ tail)), ← alone]
      simp [cells, Segment.cells]
    rw [cons, List.forall_mem_cons]
    exact ⟨⟨.keep bodyAlone firstSound.ends, firstSound.gap⟩, othersSound⟩

/-- Cutting at connectives keeps the text, and every segment ends at a connective. -/
theorem cutAtConnectives_sound (text : List Cell) :
    (cutAtConnectives text).cells = text ∧
      ∀ segment ∈ (cutAtConnectives text).segments, segment.Sound := by
  fun_induction cutAtConnectives text with
  | case1 =>
      exact ⟨rfl, by simp [Segmented.empty]⟩
  | case2 cell rest kind found after inductionHypothesis =>
      obtain ⟨left, right, others, shape, joins⟩ :=
        exists_of_connective? (Option.isSome_iff_exists.mpr ⟨kind, found⟩)
      obtain ⟨rfl, rfl⟩ := List.cons.inj shape
      obtain ⟨whole, sound⟩ := inductionHypothesis
      constructor
      · rw [Segmented.cells_push, whole]
        simp [Segment.cells, after]
      · rw [Segmented.push, List.forall_mem_cons]
        exact ⟨⟨.here joins, isSpace_of_mem_takeWhile⟩, sound⟩
  | case3 cell rest alone inductionHypothesis =>
      obtain ⟨whole, sound⟩ := inductionHypothesis
      constructor
      · rw [Segmented.cells_cons, whole]
      · rw [← whole] at alone
        exact Segmented.sound_cons alone sound

/-- A segment that ends behind a parenthesis, blanks and a connective. -/
structure Segment.AfterGroup (segment : Segment) : Prop where
  group : segment.body.getLast? = some (.plain ')')
  connective :
    ∃ blanks left right,
      segment.closing = blanks ++ [left, right] ∧
        (∀ cell ∈ blanks, cell.isBlank = true) ∧
        (connective? [left, right]).isSome = true
  gap : ∀ cell ∈ segment.gap, cell.isSpace = true

/-- A segment that ends behind a group ends at the connective that follows it. -/
theorem Segment.AfterGroup.sound
    {segment : Segment}
    (afterGroup : segment.AfterGroup) :
    segment.Sound := by
  obtain ⟨blanks, left, right, shape, blank, joins⟩ := afterGroup.connective
  refine ⟨?_, afterGroup.gap⟩
  rw [shape]
  have closingEnds :=
    (EndsAtConnective.here joins).spaces_append
      (fun cell member => Text.isSpace_of_isBlank (blank cell member))
  apply closingEnds.append_left
  rw [afterGroup.group]
  simp [Cell.plain]

/-- Any cell may join the first segment, which still ends behind a group. -/
theorem Segmented.afterGroup_cons
    (cell : Cell)
    {cut : Segmented}
    (sound : ∀ segment ∈ cut.segments, segment.AfterGroup) :
    ∀ segment ∈ (cut.cons cell).segments, segment.AfterGroup := by
  rcases cut with ⟨_ | ⟨first, others⟩, tail⟩
  · simp [cons]
  · rw [List.forall_mem_cons] at sound
    obtain ⟨firstSound, othersSound⟩ := sound
    rw [cons, List.forall_mem_cons]
    refine ⟨⟨?_, firstSound.connective, firstSound.gap⟩, othersSound⟩
    rw [List.getLast?_cons, firstSound.group]
    rfl

/-- Cutting at groups keeps the text, and every segment ends behind a group. -/
theorem cutAtGroups_sound
    (depth : Int)
    (text : List Cell) :
    (cutAtGroups depth text).cells = text ∧
      ∀ segment ∈ (cutAtGroups depth text).segments, segment.AfterGroup := by
  fun_induction cutAtGroups depth text with
  | case1 =>
      exact ⟨rfl, by simp [Segmented.empty]⟩
  | case2 depth cell rest reached blanks next isPlace after inductionHypothesis =>
      obtain ⟨isClosing, _, found⟩ := isPlace
      obtain ⟨left, right, others, shape, joins⟩ := exists_of_connective? found
      obtain ⟨whole, sound⟩ := inductionHypothesis
      constructor
      · have restShape : rest = blanks ++ (next.take 2 ++ after) := by
          rw [List.take_append_drop]
          exact List.takeWhile_append_dropWhile.symm
        rw [Segmented.cells_push, whole, restShape]
        simp [Segment.cells]
      · rw [Segmented.push, List.forall_mem_cons]
        refine ⟨⟨?_, ⟨blanks, left, right, ?_, isBlank_of_mem_takeWhile, joins⟩,
          isSpace_of_mem_takeWhile⟩, sound⟩
        · rw [isClosing]
          rfl
        · rw [shape]
          rfl
  | case3 depth cell rest reached next noPlace inductionHypothesis =>
      obtain ⟨whole, sound⟩ := inductionHypothesis
      constructor
      · rw [Segmented.cells_cons, whole]
      · exact Segmented.afterGroup_cons cell sound

/-! ## Filling lines -/

/-- Where the cells of a text are divided, the text is divided. -/
theorem exists_split_of_cells_eq
    {text : List Char}
    {first second : List Cell}
    (whole : cells text = first ++ second) :
    ∃ front rest,
      text = front ++ rest ∧
        cells front = first ∧
        cellsFrom (Quotation.outside.after front) rest = second := by
  refine ⟨text.take first.length, text.drop first.length, ?_, ?_, ?_⟩
  · rw [List.take_append_drop]
  · rw [cells, ← Text.take_cellsFrom, ← cells, whole, List.take_left]
  · rw [← Text.drop_cellsFrom, ← cells, whole, List.drop_left]

/-- Cells are trimmed by their characters. -/
theorem chars_trimLine (line : List Cell) :
    Cell.chars (trimLine line) = Text.trimChars (Cell.chars line) := by
  have front
      (line : List Cell) :
      (line.dropWhile Cell.isSpace).map Cell.char =
        (line.map Cell.char).dropWhile isSpace :=
    List.dropWhile_map.symm
  simp only [Cell.chars, trimLine, Text.trimChars, Text.trimBy, List.map_reverse,
    front]

/-- The rest of a text is one line, or none if it is blank. -/
theorem broken_last (text : List Char) :
    Broken text
      ((if (cells text).all Cell.isSpace then []
        else [trimLine (cells text)]).map Cell.chars) := by
  have sameAll : (cells text).all Cell.isSpace = text.all isSpace := by
    conv =>
      right
      rw [← Text.chars_cellsFrom .outside text, Cell.chars, List.all_map]
    rfl
  rw [sameAll]
  split
  case isTrue blank =>
    exact .blank (List.all_eq_true.mp blank)
  case isFalse visible =>
    have visible : ∃ c ∈ text, isSpace c = false := by
      simpa using visible
    obtain ⟨lead, trail, whole, leadBlank, trailBlank, isLine⟩ := exists_isLine visible
    rw [List.map_singleton, chars_trimLine, cells, Text.chars_cellsFrom]
    conv =>
      arg 1
      rw [whole]
    exact .last leadBlank isLine trailBlank

/-- A front that ends at a connective is the first line. -/
theorem broken_cons
    {front rest : List Char}
    {lines : List (List Char)}
    (ends : EndsAtConnective (cells front))
    (later : Broken rest lines) :
    Broken (front ++ rest) (Text.trimChars front :: lines) := by
  obtain ⟨c, last, visible⟩ := ends.exists_visible_getLast?
  obtain ⟨lead, trail, whole, leadBlank, trailBlank, isLine⟩ :=
    exists_isLine ⟨c, List.mem_of_getLast? last, visible⟩
  generalize Text.trimChars front = line at whole isLine
  subst whole
  obtain ⟨rfl, lineEnds⟩ := EndsAtConnective.of_surrounded leadBlank trailBlank ends
  rw [List.append_nil, List.append_assoc]
  exact .cons leadBlank isLine lineEnds later

/--
Filling lines with sound segments breaks the text.  A line that has been begun does
not disturb the reading of what follows it.
-/
theorem broken_fill
    (ends : List Cell → Segment → Bool)
    (tail : List Cell)
    {segments : List Segment}
    (sound : ∀ segment ∈ segments, segment.Sound)
    {line : List Cell}
    (begun :
      ∀ {later}, EndsAtConnective later → EndsAtConnective (line ++ later))
    {text : List Char}
    (whole : cells text = line ++ (segments.flatMap Segment.cells ++ tail)) :
    Broken text ((fill ends tail line segments).map Cell.chars) := by
  induction segments generalizing line text with
  | nil =>
      rw [List.flatMap_nil, List.nil_append] at whole
      rw [fill, ← whole]
      exact broken_last text
  | cons segment others inductionHypothesis =>
      rw [List.forall_mem_cons] at sound
      obtain ⟨segmentSound, othersSound⟩ := sound
      rw [fill]
      split
      · have frontEnds := begun segmentSound.ends
        have split :
            cells text =
              (line ++ (segment.body ++ segment.closing)) ++
                (segment.gap ++ (others.flatMap Segment.cells ++ tail)) := by
          simp [whole, Segment.cells]
        obtain ⟨front, rest, rfl, frontCells, restCells⟩ :=
          exists_split_of_cells_eq split
        -- Behind the line quotations are read afresh, as they are in the text.
        rw [← frontCells] at frontEnds
        rw [frontEnds.leaves_outside] at restCells
        obtain ⟨gap, later, rfl, gapCells, laterCells⟩ :=
          exists_split_of_cells_eq restCells
        have gapBlank : ∀ c ∈ gap, isSpace c = true := by
          intro c member
          rw [← Text.chars_cellsFrom .outside gap] at member
          obtain ⟨cell, inGap, rfl⟩ := List.mem_map.mp member
          rw [← cells, gapCells] at inGap
          exact segmentSound.gap cell inGap
        rw [Quotation.after_outside_spaces gapBlank] at laterCells
        have laterBroken :=
          @inductionHypothesis othersSound [] (fun ends => ends) later laterCells
        rw [List.map_cons, chars_trimLine, List.append_assoc, ← frontCells, cells,
          Text.chars_cellsFrom]
        exact broken_cons frontEnds (laterBroken.spaces_append gapBlank)
      · apply inductionHypothesis othersSound
        · intro later laterEnds
          have appended :=
            begun (segmentSound.ends.append segmentSound.gap laterEnds)
          simpa [Segment.cells] using appended
        · simp [whole]

/-- The second pass breaks a line into lines. -/
theorem broken_linesAtGroups
    (widths : Widths)
    {text : List Char}
    (isLine : IsLine text) :
    Broken text (linesAtGroups widths text) := by
  unfold linesAtGroups
  split
  · exact .single isLine
  · obtain ⟨whole, sound⟩ := cutAtGroups_sound 0 (cells text)
    have segmentsSound := fun segment member => (sound segment member).sound
    exact @broken_fill _ _ _ segmentsSound [] (fun ends => ends) text whole.symm

/-- The first pass breaks a text into lines. -/
theorem broken_linesAtConnectives
    (widths : Widths)
    (text : List Char) :
    Broken text (linesAtConnectives widths text) := by
  obtain ⟨whole, sound⟩ := cutAtConnectives_sound (cells text)
  exact @broken_fill _ _ _ sound [] (fun ends => ends) text whole.symm

/-- The lines of a text that is too long for one line. -/
theorem broken_lines
    {widths : Widths}
    {text : List Char}
    (long : widths.line < text.length) :
    Broken text (lines widths text) := by
  rw [lines, if_neg (Int.not_le.mpr long)]
  exact (broken_linesAtConnectives widths text).flatMap
    (fun _ => broken_linesAtGroups widths)

end WorkflowConditions.Layout
