import WorkflowConditions.Proofs.Layout.Rule

namespace WorkflowConditions.Layout

open Text (Cell)
open Token (connective?)

/-!
# Places where lines end

Lines are filled by two rules.  The places of the first are the connectives that a
reader comes upon, those of the second the connectives behind outermost groups.  Both
ways of cutting a text find all places of their rule and nothing else.
-/

/-! ## Connectives as places -/

theorem isSpace_of_connective
    {c : Char}
    (isConnective : c = '&' ∨ c = '|') :
    (Cell.plain c).isSpace = false := by
  rcases isConnective with rfl | rfl <;>
    decide

namespace EndsAtConnective

/-- A connective is visible, so the front does not end in white space. -/
theorem exists_visible_last
    {front : List Cell}
    (ends : EndsAtConnective front) :
    ∃ cell ∈ front.getLast?, cell.isSpace = false := by
  obtain ⟨c, isConnective, last⟩ := ends.getLast?_eq
  exact ⟨.plain c, last, isSpace_of_connective isConnective⟩

/-- A front that ends at a connective has at least its two characters. -/
theorem two_le_length
    {front : List Cell}
    (ends : EndsAtConnective front) :
    2 ≤ front.length := by
  induction ends with
  | here _ =>
      exact Nat.le_refl 2
  | keep _ _ inductionHypothesis =>
      exact Nat.le_succ_of_le inductionHypothesis
  | past _ _ _ =>
      simp

/-- White space in front is no part of any connective. -/
theorem spaces_append_iff
    {spaces front : List Cell}
    (blank : ∀ cell ∈ spaces, cell.isSpace = true) :
    EndsAtConnective (spaces ++ front) ↔ EndsAtConnective front :=
  ⟨of_spaces_append blank, spaces_append blank⟩

/-- Behind a connective the next connective is found on its own. -/
theorem append_iff
    {first second : List Cell}
    (firstEnds : EndsAtConnective first)
    (nonempty : second ≠ []) :
    EndsAtConnective (first ++ second) ↔ EndsAtConnective second := by
  constructor
  · intro ends
    exact (firstEnds.of_append ends).resolve_left nonempty
  · intro secondEnds
    exact @append first second firstEnds [] (by simp) secondEnds

/-- A cell that begins no connective may be left out in front. -/
theorem cons_iff
    {cell : Cell}
    {front rest : List Cell}
    (alone : connective? (cell :: (front ++ rest)) = none) :
    EndsAtConnective (cell :: front) ↔ EndsAtConnective front := by
  constructor
  · intro ends
    cases ends with
    | here joins =>
        exact (absurd_alone joins alone).elim
    | keep _ later =>
        exact later
    | past joins _ =>
        exact (absurd_alone joins alone).elim
  · intro later
    apply EndsAtConnective.keep _ later
    rwa [connective?_append_of_ne_nil cell later.ne_nil] at alone

end EndsAtConnective

/-- Lines end at the first connective beyond a length. -/
def Rule.connectives (bound : Int) : Rule where
  Place := EndsAtConnective
  Ends front := bound < (trimLine front).length
  visible := EndsAtConnective.exists_visible_last
  place_spaces_append := EndsAtConnective.spaces_append_iff
  place_append := EndsAtConnective.append_iff
  ends_spaces_append blank _ ends := by
    rwa [trimLine, Text.trimBy_of_all_append blank]

/-- A text is cut at all its connectives. -/
theorem cutAtConnectives_cutAt (text : List Cell) :
    CutAt EndsAtConnective (cutAtConnectives text).tail EndsAtConnective
      (cutAtConnectives text).segments := by
  fun_induction cutAtConnectives text with
  | case1 =>
      apply CutAt.tail
      intro front rest whole ends
      exact ends.ne_nil (List.append_eq_nil_iff.mp whole.symm).1
  | case2 cell rest kind found after inductionHypothesis =>
      obtain ⟨left, right, others, shape, joins⟩ :=
        exists_of_connective? (Option.isSome_iff_exists.mpr ⟨kind, found⟩)
      obtain ⟨rfl, rfl⟩ := List.cons.inj shape
      apply CutAt.segment _ inductionHypothesis
      refine ⟨.here joins, ?_, isSpace_of_mem_takeWhile⟩
      intro front behind whole ends
      have atLeast := ends.two_le_length
      have lengths : 2 = front.length + behind.length := by
        simpa using congrArg List.length whole
      exact List.length_eq_zero_iff.mp (by omega)
  | case3 cell rest alone inductionHypothesis =>
      have whole := (cutAtConnectives_sound rest).1
      apply CutAt.cons (fun ends => ends.ne_nil rfl) _ inductionHypothesis
      intro front behind shape
      rw [whole] at shape
      exact EndsAtConnective.cons_iff (shape ▸ alone)

/-! ## Outermost groups as places -/

/-- Blanks and a connective. -/
def IsLink (link : List Cell) : Prop :=
  ∃ blanks c,
    (∀ cell ∈ blanks, cell.isBlank = true) ∧
      (c = '&' ∨ c = '|') ∧
      link = blanks ++ [.plain c, .plain c]

/-- Cells that end in the parenthesis with which an outermost group closes. -/
structure ClosesGroup
    (depth : Int)
    (group : List Cell) :
    Prop where
  closing : group.getLast? = some (.plain ')')
  balanced : depth + Text.depth group = 0

/-- Cells that end behind an outermost group, in the connective that follows it. -/
def EndsAtGroup
    (depth : Int)
    (front : List Cell) :
    Prop :=
  ∃ group link, front = group ++ link ∧ ClosesGroup depth group ∧ IsLink link

/-- White space is no parenthesis. -/
theorem not_parenthesis_of_isSpace
    {cell : Cell}
    (space : cell.isSpace = true) :
    cell ≠ .plain '(' ∧ cell ≠ .plain ')' :=
  ⟨Token.ne_plain_of_space space (by decide), Token.ne_plain_of_space space (by decide)⟩

namespace IsLink

variable
  {link : List Cell}

/-- Blanks and a connective have no parenthesis. -/
theorem not_parenthesis
    (isLink : IsLink link) :
    ∀ cell ∈ link, cell ≠ .plain '(' ∧ cell ≠ .plain ')' := by
  obtain ⟨blanks, c, blank, isConnective, rfl⟩ := isLink
  intro cell member
  rcases List.mem_append.mp member with inBlanks | isSign
  · exact not_parenthesis_of_isSpace (Text.isSpace_of_isBlank (blank cell inBlanks))
  · obtain rfl : cell = .plain c := by simpa using isSign
    rcases isConnective with rfl | rfl <;>
      decide

theorem closing_not_mem
    (isLink : IsLink link) :
    .plain ')' ∉ link :=
  fun member => (isLink.not_parenthesis _ member).2 rfl

/-- Nothing can follow in a link once it is one. -/
theorem eq_nil_of_append
    {behind : List Cell}
    (isLink : IsLink link)
    (longer : IsLink (link ++ behind)) :
    behind = [] := by
  obtain ⟨blanks, c, blank, isConnective, rfl⟩ := isLink
  obtain ⟨otherBlanks, d, otherBlank, isOther, same⟩ := longer
  have signVisible
      {sign : Char}
      (isSign : sign = '&' ∨ sign = '|') :
      (Cell.plain sign).isBlank = false := by
    rcases isSign with rfl | rfl <;>
      decide
  have sameBlanks := congrArg (List.takeWhile Cell.isBlank) same
  rw [List.append_assoc, List.takeWhile_append_of_pos blank,
    List.takeWhile_append_of_pos otherBlank] at sameBlanks
  simp only [List.cons_append, List.takeWhile_cons, signVisible isConnective,
    signVisible isOther, Bool.false_eq_true, if_false, List.append_nil] at sameBlanks
  subst sameBlanks
  simpa using congrArg List.length same

/-- Behind its blanks a link starts with its connective. -/
theorem connective?_dropWhile
    (isLink : IsLink link)
    (behind : List Cell) :
    (connective? ((link ++ behind).dropWhile Cell.isBlank)).isSome = true := by
  obtain ⟨blanks, c, blank, isConnective, rfl⟩ := isLink
  rw [List.append_assoc, List.dropWhile_append_of_pos blank]
  rcases isConnective with rfl | rfl <;>
    rfl

/-- A link ends in its connective, which is visible. -/
theorem exists_visible_last
    (isLink : IsLink link)
    (front : List Cell) :
    ∃ cell ∈ (front ++ link).getLast?, cell.isSpace = false := by
  obtain ⟨blanks, c, _, isConnective, rfl⟩ := isLink
  exact ⟨.plain c, by simp, isSpace_of_connective isConnective⟩

end IsLink

/-- Without parentheses the depth does not change. -/
theorem depth_eq_zero
    {text : List Cell}
    (plain : ∀ cell ∈ text, cell ≠ .plain '(' ∧ cell ≠ .plain ')') :
    Text.depth text = 0 := by
  induction text with
  | nil =>
      rfl
  | cons cell rest inductionHypothesis =>
      obtain ⟨notOpening, notClosing⟩ := plain cell (by simp)
      have later := inductionHypothesis (fun item member => plain item (by simp [member]))
      rw [Text.depth, Cell.opened_of_other notOpening notClosing, later]
      rfl

theorem depth_spaces
    {spaces : List Cell}
    (blank : ∀ cell ∈ spaces, cell.isSpace = true) :
    Text.depth spaces = 0 :=
  depth_eq_zero (fun cell member => not_parenthesis_of_isSpace (blank cell member))

/-- The depth that is carried along is the depth of all cells so far. -/
theorem depthAfter_eq
    (depth : Int)
    (cell : Cell) :
    depthAfter depth cell = depth + Text.depth [cell] := by
  simp only [depthAfter, Text.depth, Cell.opened]
  split
  · omega
  · split <;> omega

/-- Cells are cut in one way behind their last closing parenthesis. -/
theorem eq_of_last_closing
    {first second firstBehind secondBehind : List Cell}
    (same : first ++ firstBehind = second ++ secondBehind)
    (firstClosing : first.getLast? = some (.plain ')'))
    (secondClosing : second.getLast? = some (.plain ')'))
    (firstFree : .plain ')' ∉ firstBehind)
    (secondFree : .plain ')' ∉ secondBehind) :
    first = second ∧ firstBehind = secondBehind := by
  have nothing
      {front between : List Cell}
      (closing : (front ++ between).getLast? = some (.plain ')'))
      (free : .plain ')' ∉ between) :
      between = [] := by
    by_contra nonempty
    rw [List.getLast?_append_of_ne_nil _ nonempty] at closing
    exact free (List.mem_of_getLast? closing)
  rcases List.append_eq_append_iff.mp same with
    ⟨between, rfl, rfl⟩ | ⟨between, rfl, rfl⟩
  · obtain rfl := nothing secondClosing (by simp_all)
    simp
  · obtain rfl := nothing firstClosing (by simp_all)
    simp

namespace EndsAtGroup

variable
  {depth : Int}
  {before front : List Cell}

/-- Cells before a group change the depth at which it closes. -/
theorem append_left
    (ends : EndsAtGroup (depth + Text.depth before) front) :
    EndsAtGroup depth (before ++ front) := by
  obtain ⟨group, link, rfl, ⟨closing, balanced⟩, isLink⟩ := ends
  refine ⟨before ++ group, link, by simp, ⟨by simp [closing], ?_⟩, isLink⟩
  rw [Text.depth_append, ← Int.add_assoc]
  exact balanced

/-- An outermost group closes either behind a part of the text or within it. -/
theorem append_cases
    (ends : EndsAtGroup depth (before ++ front)) :
    EndsAtGroup (depth + Text.depth before) front ∨
      ∃ group behind,
        before = group ++ behind ∧ ClosesGroup depth group ∧ IsLink (behind ++ front) := by
  obtain ⟨group, link, same, closes, isLink⟩ := ends
  rcases List.append_eq_append_iff.mp same with
    ⟨inner, rfl, rfl⟩ | ⟨behind, rfl, rfl⟩
  · by_cases nothing : inner = []
    · subst nothing
      exact .inr ⟨before, [], by simp, by simpa using closes, by simpa using isLink⟩
    · left
      refine ⟨inner, link, rfl, ⟨?_, ?_⟩, isLink⟩
      · have closing := closes.closing
        rwa [List.getLast?_append_of_ne_nil _ nothing] at closing
      · have balanced := closes.balanced
        rwa [Text.depth_append, ← Int.add_assoc] at balanced
  · exact .inr ⟨group, behind, rfl, closes, isLink⟩

/-- The first cell closes a group that a link follows, or it counts for the rest. -/
theorem cons_iff
    {cell : Cell} :
    EndsAtGroup depth (cell :: front) ↔
      EndsAtGroup (depthAfter depth cell) front ∨
        (cell = .plain ')' ∧ depthAfter depth cell = 0 ∧ IsLink front) := by
  rw [depthAfter_eq]
  constructor
  · intro ends
    rcases @append_cases depth [cell] front ends with
      inFront | ⟨group, behind, shape, closes, isLink⟩
    · exact .inl inFront
    · rcases List.append_eq_singleton_iff.mp shape.symm with ⟨rfl, _⟩ | ⟨rfl, rfl⟩
      · cases closes.closing
      · exact .inr ⟨Option.some.inj closes.closing, closes.balanced, isLink⟩
  · rintro (inFront | ⟨rfl, balanced, isLink⟩)
    · exact @append_left depth [cell] front inFront
    · exact ⟨[.plain ')'], front, rfl, ⟨rfl, balanced⟩, isLink⟩

theorem ne_nil
    (ends : EndsAtGroup depth front) :
    front ≠ [] := by
  rintro rfl
  obtain ⟨group, link, same, closes, _⟩ := ends
  obtain ⟨rfl, _⟩ := List.append_eq_nil_iff.mp same.symm
  cases closes.closing

/-- Behind an outermost group all parentheses are closed. -/
theorem depth_eq
    (ends : EndsAtGroup depth front) :
    depth + Text.depth front = 0 := by
  obtain ⟨group, link, rfl, ⟨_, balanced⟩, isLink⟩ := ends
  rw [Text.depth_append, depth_eq_zero isLink.not_parenthesis, Int.add_zero]
  exact balanced

/-- White space in front does not change which groups are outermost. -/
theorem spaces_append_iff
    {spaces : List Cell}
    (blank : ∀ cell ∈ spaces, cell.isSpace = true) :
    EndsAtGroup depth (spaces ++ front) ↔ EndsAtGroup depth front := by
  have sameDepth : depth + Text.depth spaces = depth := by
    rw [depth_spaces blank, Int.add_zero]
  constructor
  · intro ends
    rcases ends.append_cases with inFront | ⟨group, behind, rfl, closes, _⟩
    · exact sameDepth ▸ inFront
    · have space := blank _ (List.mem_append_left behind
        (List.mem_of_getLast? closes.closing))
      exact ((not_parenthesis_of_isSpace space).2 rfl).elim
  · intro ends
    exact append_left (sameDepth.symm ▸ ends)

/-- Behind an outermost group the next group is found on its own. -/
theorem append_iff
    {first second : List Cell}
    (firstEnds : EndsAtGroup 0 first)
    (nonempty : second ≠ []) :
    EndsAtGroup 0 (first ++ second) ↔ EndsAtGroup 0 second := by
  constructor
  · intro ends
    rcases ends.append_cases with inSecond | ⟨group, behind, shape, closes, longer⟩
    · exact firstEnds.depth_eq ▸ inSecond
    · obtain ⟨firstGroup, link, rfl, firstCloses, isLink⟩ := firstEnds
      have behindFree : .plain ')' ∉ behind :=
        fun member => longer.closing_not_mem (List.mem_append_left second member)
      obtain ⟨rfl, rfl⟩ :=
        eq_of_last_closing shape firstCloses.closing closes.closing
          isLink.closing_not_mem behindFree
      exact (nonempty (isLink.eq_nil_of_append longer)).elim
  · intro secondEnds
    apply append_left
    exact firstEnds.depth_eq.symm ▸ secondEnds

end EndsAtGroup

/-- A group beyond a length, with the connective behind it. -/
def ReachesBeyond
    (bound : Int)
    (front : List Cell) :
    Prop :=
  ∃ group link,
    front = group ++ link ∧
      group.getLast? = some (.plain ')') ∧
      IsLink link ∧
      bound < group.length

/-- Lines end at the first outermost group beyond a length. -/
def Rule.groups (bound : Int) : Rule where
  Place := EndsAtGroup 0
  Ends := ReachesBeyond bound
  visible := by
    rintro front ⟨group, link, rfl, _, isLink⟩
    exact isLink.exists_visible_last group
  place_spaces_append := EndsAtGroup.spaces_append_iff
  place_append := EndsAtGroup.append_iff
  ends_spaces_append := by
    rintro spaces front _ _ ⟨group, link, rfl, closing, isLink, beyond⟩
    refine ⟨spaces ++ group, link, by simp, by simp [closing], isLink, ?_⟩
    simp only [List.length_append]
    omega

/-- A text is cut behind all its outermost groups that a connective follows. -/
theorem cutAtGroups_cutAt
    (depth : Int)
    (text : List Cell) :
    CutAt (EndsAtGroup 0) (cutAtGroups depth text).tail (EndsAtGroup depth)
      (cutAtGroups depth text).segments := by
  fun_induction cutAtGroups depth text with
  | case1 =>
      apply CutAt.tail
      intro front rest whole ends
      exact ends.ne_nil (List.append_eq_nil_iff.mp whole.symm).1
  | case2 depth cell rest reached blanks next isPlace after inductionHypothesis =>
      obtain ⟨rfl, isOutermost, found⟩ := isPlace
      obtain ⟨left, right, others, shape, joins⟩ := exists_of_connective? found
      obtain ⟨c, isConnective, rfl, rfl⟩ := Token.exists_plain_of_connective? joins
      have isLink : IsLink (blanks ++ next.take 2) :=
        ⟨blanks, c, isBlank_of_mem_takeWhile, isConnective, by rw [shape]; rfl⟩
      have sameStart : EndsAtGroup reached = EndsAtGroup 0 :=
        congrArg EndsAtGroup isOutermost
      rw [sameStart] at inductionHypothesis
      apply CutAt.segment _ inductionHypothesis
      refine ⟨EndsAtGroup.cons_iff.mpr (.inr ⟨rfl, isOutermost, isLink⟩), ?_,
        isSpace_of_mem_takeWhile⟩
      intro front behind whole ends
      cases front with
      | nil =>
          exact (ends.ne_nil rfl).elim
      | cons head front =>
          obtain ⟨rfl, linkShape⟩ := List.cons.inj whole
          have linkShape : blanks ++ next.take 2 = front ++ behind := linkShape
          rcases EndsAtGroup.cons_iff.mp ends with
            ⟨group, link, rfl, closes, _⟩ | ⟨_, _, isFront⟩
          · refine (isLink.closing_not_mem ?_).elim
            simp [linkShape, List.mem_of_getLast? closes.closing]
          · exact isFront.eq_nil_of_append (linkShape ▸ isLink)
  | case3 depth cell rest reached next noPlace inductionHypothesis =>
      have whole := (cutAtGroups_sound reached rest).1
      apply CutAt.cons (fun ends => ends.ne_nil rfl) _ inductionHypothesis
      intro front behind shape
      rw [whole] at shape
      refine EndsAtGroup.cons_iff.trans (or_iff_left ?_)
      rintro ⟨isClosing, isOutermost, isLink⟩
      apply noPlace
      refine ⟨isClosing, isOutermost, ?_⟩
      have found := isLink.connective?_dropWhile behind
      rwa [← shape] at found

end WorkflowConditions.Layout
