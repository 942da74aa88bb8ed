import WorkflowConditions.Proofs.Layout.Segmentation

namespace WorkflowConditions.Layout

open Text (Cell)

/-!
# Rules of filling

Lines are filled by a rule.  It knows the places of a text, behind which a line may
end, and tells which of them end a line that has come so far.  A line that is filled
by a rule has no place inside at which the rule ends it, and a line without such a
place is filled as a whole.
-/

/-- Where lines may end, and which of these places end them. -/
structure Rule where
  /-- The front of a text reaches up to a place. -/
  Place : List Cell → Prop
  /-- A line that has come up to a place ends there. -/
  Ends : List Cell → Prop
  /-- A place stands behind something visible. -/
  visible {front : List Cell} :
    Place front →
    ∃ cell ∈ front.getLast?, cell.isSpace = false
  /-- White space in front of a text does not move its places. -/
  place_spaces_append {spaces front : List Cell} :
    (∀ cell ∈ spaces, cell.isSpace = true) →
    (Place (spaces ++ front) ↔ Place front)
  /-- Behind a place a text is read afresh. -/
  place_append {first second : List Cell} :
    Place first →
    second ≠ [] →
    (Place (first ++ second) ↔ Place second)
  /-- White space in front does not keep a line from ending. -/
  ends_spaces_append {spaces front : List Cell} :
    (∀ cell ∈ spaces, cell.isSpace = true) →
    Place front →
    Ends front →
    Ends (spaces ++ front)

/-- A segment that reaches up to its only place. -/
structure Segment.UpTo
    (Place : List Cell → Prop)
    (segment : Segment) :
    Prop where
  place : Place (segment.body ++ segment.closing)
  only {front rest : List Cell} :
    segment.body ++ segment.closing = front ++ rest →
    Place front →
    rest = []
  gap : ∀ cell ∈ segment.gap, cell.isSpace = true

/--
Segments that reach up to the places of a text, and a tail without any.  The first
segment is told by places of its own, since the reader may begin inside a group.
-/
inductive CutAt
    (Place : List Cell → Prop)
    (tail : List Cell) :
    (List Cell → Prop) → List Segment → Prop where
  | tail
      {First : List Cell → Prop}
      (free : ∀ front rest, tail = front ++ rest → ¬First front) :
      CutAt Place tail First []
  | segment
      {First : List Cell → Prop}
      {segment : Segment}
      {others : List Segment}
      (upTo : segment.UpTo First)
      (later : CutAt Place tail Place others) :
      CutAt Place tail First (segment :: others)

/-- A cell in front of a cut text belongs to its first segment. -/
theorem CutAt.cons
    {Place First Next : List Cell → Prop}
    {cell : Cell}
    {cut : Segmented}
    (nowhere : ¬First [])
    (step :
      ∀ {front rest},
        cut.cells = front ++ rest → (First (cell :: front) ↔ Next front))
    (later : CutAt Place cut.tail Next cut.segments) :
    CutAt Place (cut.cons cell).tail First (cut.cons cell).segments := by
  rcases cut with ⟨_ | ⟨segment, others⟩, tail⟩
  · cases later with
    | tail free =>
        apply CutAt.tail
        intro front rest whole place
        cases front with
        | nil =>
            exact nowhere place
        | cons head front =>
            obtain ⟨rfl, inTail⟩ := List.cons.inj whole
            exact free front rest inTail ((step inTail).mp place)
  · cases later with
    | segment upTo later =>
        have textShape :
            Segmented.cells ⟨segment :: others, tail⟩ =
              (segment.body ++ segment.closing) ++
                (segment.gap ++ (others.flatMap Segment.cells ++ tail)) := by
          simp [Segmented.cells, Segment.cells]
        apply CutAt.segment _ later
        refine ⟨(step textShape).mpr upTo.place, ?_, upTo.gap⟩
        intro front rest whole place
        cases front with
        | nil =>
            exact (nowhere place).elim
        | cons head front =>
            obtain ⟨rfl, inSegment⟩ := List.cons.inj whole
            have inText :
                Segmented.cells ⟨segment :: others, tail⟩ =
                  front ++
                    (rest ++ (segment.gap ++ (others.flatMap Segment.cells ++ tail))) := by
              rw [textShape, ← List.append_assoc front]
              exact congrArg (· ++ _) inSegment
            exact upTo.only inSegment ((step inText).mp place)

/-! ## Filling by a rule -/

section Filling

variable
  {ends : List Cell → Segment → Bool}
  {tail : List Cell}

/--
What holds of every line that is filled, from what holds of a line that has been
begun and of the segments that are left.
-/
theorem forall_mem_fill
    {Begun : List Cell → List Segment → Prop}
    {Good : List Cell → Prop}
    (last :
      ∀ {line},
        Begun line [] →
        (∃ cell ∈ line ++ tail, cell.isSpace = false) →
        Good (trimLine (line ++ tail)))
    (ended :
      ∀ {line segment others},
        Begun line (segment :: others) →
        ends line segment = true →
        Good (trimLine (line ++ (segment.body ++ segment.closing))) ∧ Begun [] others)
    (passed :
      ∀ {line segment others},
        Begun line (segment :: others) →
        ends line segment = false →
        Begun (line ++ segment.cells) others)
    {segments : List Segment}
    {line : List Cell}
    (begun : Begun line segments) :
    ∀ filled ∈ fill ends tail line segments, Good filled := by
  induction segments generalizing line with
  | nil =>
      intro filled member
      rw [fill] at member
      split at member
      · cases member
      case isFalse visible =>
        obtain rfl := List.mem_singleton.mp member
        apply last begun
        simpa only [Bool.not_eq_true, List.all_eq_false] using visible
  | cons segment others inductionHypothesis =>
      intro filled member
      rw [fill] at member
      split at member
      case isTrue ends =>
        obtain ⟨good, fresh⟩ := ended begun ends
        rw [List.append_assoc] at member
        rcases List.mem_cons.mp member with rfl | later
        · exact good
        · exact inductionHypothesis fresh filled later
      case isFalse passes =>
        exact inductionHypothesis (passed begun (by simpa using passes)) filled member

end Filling

namespace Rule

variable
  (rule : Rule)

/-- No place inside a line ends it. -/
def Holds (line : List Cell) : Prop :=
  ∀ front rest, line = front ++ rest → rest ≠ [] → rule.Place front → ¬rule.Ends front

/-- What follows a line is read afresh. -/
def Fresh (line : List Cell) : Prop :=
  ∀ later, later ≠ [] → (rule.Place (line ++ later) ↔ rule.Place later)

/-- A line that has been begun: all its places were passed, and the rest is read afresh. -/
structure Begun (line : List Cell) : Prop where
  fresh : rule.Fresh line
  passed {front rest : List Cell} :
    line = front ++ rest →
    rule.Place front →
    ¬rule.Ends front

/-- Whether a segment ends a line is for the rule to decide. -/
def Decides
    (ends : List Cell → Segment → Bool)
    (segments : List Segment) :
    Prop :=
  ∀ line,
    ∀ segment ∈ segments,
      ends line segment = true ↔
        rule.Ends (line ++ (segment.body ++ segment.closing))

variable
  {rule : Rule}

theorem ne_nil
    {front : List Cell}
    (place : rule.Place front) :
    front ≠ [] := by
  rintro rfl
  obtain ⟨cell, last, _⟩ := rule.visible place
  cases last

/-- The front up to a place is not blank. -/
theorem exists_visible
    {front : List Cell}
    (place : rule.Place front) :
    ∃ cell ∈ front, cell.isSpace = false := by
  obtain ⟨cell, last, visible⟩ := rule.visible place
  exact ⟨cell, List.mem_of_getLast? last, visible⟩

theorem Decides.tail
    {ends : List Cell → Segment → Bool}
    {segment : Segment}
    {others : List Segment}
    (decides : rule.Decides ends (segment :: others)) :
    rule.Decides ends others :=
  fun line other member => decides line other (List.mem_cons_of_mem segment member)

/-- Behind a segment that reaches up to its place the rest is read afresh. -/
theorem Fresh.append
    {line : List Cell}
    {segment : Segment}
    (fresh : rule.Fresh line)
    (upTo : segment.UpTo rule.Place) :
    rule.Fresh (line ++ segment.cells) := by
  intro later nonempty
  have behindNonempty : segment.gap ++ later ≠ [] := by
    simp [nonempty]
  have shape :
      line ++ segment.cells ++ later =
        line ++ ((segment.body ++ segment.closing) ++ (segment.gap ++ later)) := by
    simp [Segment.cells]
  rw [shape]
  exact (fresh _ (by simp [nonempty])).trans
    ((rule.place_append upTo.place behindNonempty).trans
      (rule.place_spaces_append upTo.gap))

/-- An empty line has passed no place. -/
theorem begun_nil :
    rule.Begun [] := by
  refine ⟨fun _ _ => Iff.rfl, ?_⟩
  intro front rest whole place
  exact (ne_nil place (List.append_eq_nil_iff.mp whole.symm).1).elim

/-- A place of a line and what follows it lies in the line or in what follows. -/
theorem Begun.place_cases
    {line part front rest : List Cell}
    (begun : rule.Begun line)
    (whole : line ++ part = front ++ rest)
    (place : rule.Place front) :
    (∃ more, line = front ++ more) ∨
      ∃ more, front = line ++ more ∧ part = more ++ rest ∧ rule.Place more := by
  rcases List.append_eq_append_iff.mp whole with
    ⟨more, frontShape, partShape⟩ | ⟨more, lineShape, _⟩
  · by_cases nothing : more = []
    · exact .inl ⟨[], by simp [frontShape, nothing]⟩
    · right
      refine ⟨more, frontShape, partShape, ?_⟩
      apply (begun.fresh more nothing).mp
      exact frontShape ▸ place
  · exact .inl ⟨more, lineShape⟩

/-- Passing the place of a segment. -/
theorem Begun.append
    {line : List Cell}
    {segment : Segment}
    (begun : rule.Begun line)
    (upTo : segment.UpTo rule.Place)
    (passes : ¬rule.Ends (line ++ (segment.body ++ segment.closing))) :
    rule.Begun (line ++ segment.cells) := by
  constructor
  · exact begun.fresh.append upTo
  · intro front rest whole place
    rcases begun.place_cases whole place with
      ⟨more, lineShape⟩ | ⟨more, rfl, cellsShape, morePlace⟩
    · exact begun.passed lineShape place
    · rw [Segment.cells] at cellsShape
      rcases List.append_eq_append_iff.mp cellsShape with
        ⟨inGap, moreShape, gapShape⟩ | ⟨behind, closingShape, _⟩
      · -- The gap is white space, so no place lies in it.
        by_cases nothing : inGap = []
        · rw [nothing, List.append_nil] at moreShape
          exact moreShape ▸ passes
        · obtain ⟨last, isLast, visible⟩ := rule.visible morePlace
          rw [moreShape, List.getLast?_append_of_ne_nil _ nothing] at isLast
          have blank := upTo.gap last (by simp [gapShape, List.mem_of_getLast? isLast])
          rw [visible] at blank
          cases blank
      · obtain rfl := upTo.only closingShape morePlace
        rw [List.append_nil] at closingShape
        exact closingShape ▸ passes

/-- What is begun and then ends at its last place, or has none any more, holds. -/
theorem Begun.holds_trimLine
    {line part : List Cell}
    (begun : rule.Begun line)
    (only : ∀ {front rest}, part = front ++ rest → rule.Place front → rest = [])
    (visible : ∃ cell ∈ line ++ part, cell.isSpace = false) :
    rule.Holds (trimLine (line ++ part)) := by
  obtain ⟨lead, trail, whole, leadBlank, _, _⟩ :=
    @Text.exists_append_trimBy_append _ Cell.isSpace _ visible
  rw [← trimLine] at whole
  intro front rest shape inside place ends
  have inWhole : line ++ part = (lead ++ front) ++ (rest ++ trail) := by
    rw [whole, shape]
    simp
  have leadPlace := (rule.place_spaces_append leadBlank).mpr place
  rcases begun.place_cases inWhole leadPlace with
    ⟨more, lineShape⟩ | ⟨more, _, partShape, morePlace⟩
  · exact begun.passed lineShape leadPlace
      (rule.ends_spaces_append leadBlank place ends)
  · have nothing := only partShape morePlace
    exact inside (List.append_eq_nil_iff.mp nothing).1

/-- Lines that are filled by a rule have no place inside at which it ends them. -/
theorem holds_of_mem_fill
    {ends : List Cell → Segment → Bool}
    {tail : List Cell}
    {segments : List Segment}
    (cut : CutAt rule.Place tail rule.Place segments)
    (decides : rule.Decides ends segments) :
    ∀ line ∈ fill ends tail [] segments, rule.Holds line := by
  let Begins (line : List Cell) (segments : List Segment) : Prop :=
    rule.Begun line ∧ CutAt rule.Place tail rule.Place segments ∧
      rule.Decides ends segments
  apply @forall_mem_fill ends tail Begins rule.Holds
  · rintro line ⟨begun, cut, _⟩ visible
    cases cut with
    | tail free =>
        apply begun.holds_trimLine _ visible
        intro front rest whole place
        exact (free front rest whole place).elim
  · rintro line segment others ⟨begun, cut, decides⟩ _
    cases cut with
    | segment upTo later =>
        obtain ⟨cell, member, visible⟩ := exists_visible upTo.place
        have inLine := List.mem_append_right line member
        exact ⟨begun.holds_trimLine upTo.only ⟨cell, inLine, visible⟩, begun_nil, later,
          decides.tail⟩
  · rintro line segment others ⟨begun, cut, decides⟩ passes
    cases cut with
    | segment upTo later =>
        have notEnds : ¬rule.Ends (line ++ (segment.body ++ segment.closing)) := by
          rw [← decides line segment (by simp), passes]
          simp
        exact ⟨begun.append upTo notEnds, later, decides.tail⟩
  · exact ⟨begun_nil, cut, decides⟩

/--
A line without a place that ends it is filled as a whole.  A line that has been begun
does not disturb the places behind it.
-/
theorem fill_eq_singleton
    {ends : List Cell → Segment → Bool}
    {tail line whole : List Cell}
    {segments : List Segment}
    (cut : CutAt rule.Place tail rule.Place segments)
    (decides : rule.Decides ends segments)
    (fresh : rule.Fresh line)
    (shape : whole = line ++ (segments.flatMap Segment.cells ++ tail))
    (visible : ∃ cell ∈ whole, cell.isSpace = false)
    (trimmed : trimLine whole = whole)
    (holds : rule.Holds whole) :
    fill ends tail line segments = [whole] := by
  induction segments generalizing line with
  | nil =>
      rw [List.flatMap_nil, List.nil_append] at shape
      have notBlank : ¬(line ++ tail).all Cell.isSpace = true := by
        simpa [← shape] using visible
      rw [fill, if_neg notBlank, ← shape, trimmed]
  | cons segment others inductionHypothesis =>
      cases cut with
      | segment upTo later =>
          have coreNonempty := ne_nil upTo.place
          have place : rule.Place (line ++ (segment.body ++ segment.closing)) :=
            (fresh _ coreNonempty).mpr upTo.place
          have inWhole :
              whole =
                (line ++ (segment.body ++ segment.closing)) ++
                  (segment.gap ++ (others.flatMap Segment.cells ++ tail)) := by
            simp [shape, Segment.cells]
          rw [fill]
          split
          case isTrue ended =>
            -- The rule ends the line here, so nothing can be left of it.
            have nothing :
                segment.gap ++ (others.flatMap Segment.cells ++ tail) = [] := by
              by_contra left
              exact holds _ _ inWhole left place
                ((decides line segment (by simp)).mp ended)
            have noOthers : others = [] := by
              cases later with
              | tail _ =>
                  rfl
              | segment nextUpTo _ =>
                  have nextNonempty := ne_nil nextUpTo.place
                  simp_all [Segment.cells]
            have noTail : tail = [] := by
              simp_all
            have same : line ++ segment.body ++ segment.closing = whole := by
              rw [inWhole, nothing]
              simp
            rw [same, trimmed, noOthers, noTail]
            rfl
          case isFalse =>
            apply inductionHypothesis later decides.tail (fresh.append upTo)
            simp [shape]

end Rule

end WorkflowConditions.Layout
