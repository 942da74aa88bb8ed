import WorkflowConditions.Proofs.Layout.LongLines

namespace WorkflowConditions.Layout

open Text (Cell cells)
open Token (connective?)

/-!
# What reaches beyond the threshold

Connectives inside a line end within the length at which connectives end lines.  So a
line is a part up to its last connective within that length, one operand without a
connective, and perhaps a connective that closes the line.
-/

/-- A connective that stands anywhere in a text is preceded by one that the reader finds. -/
theorem not_endsInConnective_of_unread
    {text : List Cell}
    (unread : ∀ front rest, text = front ++ rest → ¬EndsAtConnective front) :
    ∀ front rest, text = front ++ rest → ¬EndsInConnective front := by
  induction text with
  | nil =>
      rintro front rest whole ⟨start, c, _, rfl⟩
      simp at whole
  | cons cell others inductionHypothesis =>
      have alone : connective? (cell :: others) = none := by
        by_contra found
        obtain ⟨left, right, rest, shape, joins⟩ :=
          exists_of_connective? (Option.isSome_iff_ne_none.mpr found)
        exact unread [left, right] rest shape (.here joins)
      have othersUnread :
          ∀ front rest, others = front ++ rest → ¬EndsAtConnective front := by
        rintro front rest rfl ends
        exact unread (cell :: front) rest rfl
          ((EndsAtConnective.cons_iff alone).mpr ends)
      rintro front rest whole ⟨start, c, isConnective, rfl⟩
      cases start with
      | nil =>
          rw [whole] at alone
          rcases isConnective with rfl | rfl <;>
            cases alone
      | cons head start =>
          obtain ⟨_, inOthers⟩ := List.cons.inj whole
          exact inductionHypothesis othersUnread (start ++ [.plain c, .plain c]) rest
            inOthers ⟨start, c, isConnective, rfl⟩

/-- Of all proper fronts of a text with some property there is a longest one. -/
theorem exists_last_front
    {Property : List Cell → Prop}
    (text : List Cell) :
    (∀ front rest, text = front ++ rest → rest ≠ [] → ¬Property front) ∨
      ∃ part behind,
        text = part ++ behind ∧
          behind ≠ [] ∧
          Property part ∧
          ∀ front rest,
            behind = front ++ rest →
            front ≠ [] →
            rest ≠ [] →
            ¬Property (part ++ front) := by
  induction text generalizing Property with
  | nil =>
      left
      intro front rest whole inside
      exact (inside (List.append_eq_nil_iff.mp whole.symm).2).elim
  | cons cell others inductionHypothesis =>
      rcases @inductionHypothesis (fun front => Property (cell :: front)) with
        none | ⟨part, behind, rfl, nonempty, holds, lastOne⟩
      · by_cases first : Property []
        · right
          refine ⟨[], cell :: others, rfl, by simp, first, ?_⟩
          intro front rest whole frontNonempty inside
          obtain ⟨head, front, rfl⟩ := List.exists_cons_of_ne_nil frontNonempty
          obtain ⟨rfl, inOthers⟩ := List.cons.inj whole
          exact none front rest inOthers inside
        · left
          intro front rest whole inside
          cases front with
          | nil =>
              exact first
          | cons head front =>
              obtain ⟨rfl, inOthers⟩ := List.cons.inj whole
              exact none front rest inOthers inside
      · exact .inr ⟨cell :: part, behind, rfl, nonempty, holds, lastOne⟩

/--
A part up to a connective within a length, or none, then one operand without a
connective, and at most one connective that closes the line.
-/
def OneOperandBeyond
    (bound : Int)
    (line : List Cell) :
    Prop :=
  ∃ part operand closing,
    line = part ++ (operand ++ closing) ∧
      (part = [] ∨ EndsAtConnective part ∧ (part.length : Int) ≤ bound) ∧
      (∀ front rest, operand = front ++ rest → ¬EndsInConnective front) ∧
      (closing = [] ∨ ∃ c, (c = '&' ∨ c = '|') ∧ closing = [.plain c, .plain c])

/-- Without a connective inside, only the end of a text can be one. -/
theorem exists_operand
    {text : List Cell}
    (unread :
      ∀ front rest, text = front ++ rest → rest ≠ [] → ¬EndsAtConnective front) :
    ∃ operand closing,
      text = operand ++ closing ∧
        (∀ front rest, operand = front ++ rest → ¬EndsInConnective front) ∧
        (closing = [] ∨
          ∃ c, (c = '&' ∨ c = '|') ∧ closing = [.plain c, .plain c]) := by
  by_cases ends : EndsAtConnective text
  · obtain ⟨operand, c, isConnective, rfl⟩ := ends.endsInConnective
    refine ⟨operand, _, rfl, ?_, .inr ⟨c, isConnective, rfl⟩⟩
    apply not_endsInConnective_of_unread
    rintro front rest rfl
    exact unread front (rest ++ [.plain c, .plain c]) (by simp) (by simp)
  · refine ⟨text, [], by simp, ?_, .inl rfl⟩
    apply not_endsInConnective_of_unread
    intro front rest whole
    by_cases inside : rest = []
    · obtain rfl : text = front := by simp [whole, inside]
      exact ends
    · exact unread front rest whole inside

/-- Between the last connective within the length and the end there is one operand. -/
theorem ConnectivesWithin.oneOperandBeyond
    {bound : Int}
    {line : List Cell}
    (within : ConnectivesWithin bound line) :
    OneOperandBeyond bound line := by
  rcases @exists_last_front EndsAtConnective line with
    unread | ⟨part, behind, whole, nonempty, partEnds, lastOne⟩
  · obtain ⟨operand, closing, shape, free, closes⟩ := exists_operand unread
    exact ⟨[], operand, closing, shape, .inl rfl, free, closes⟩
  · have behindUnread :
        ∀ front rest, behind = front ++ rest → rest ≠ [] → ¬EndsAtConnective front := by
      intro front rest shape inside ends
      exact lastOne front rest shape ends.ne_nil inside
        ((partEnds.append_iff ends.ne_nil).mpr ends)
    obtain ⟨operand, closing, rfl, free, closes⟩ := exists_operand behindUnread
    have atMost := within part (operand ++ closing) whole nonempty partEnds
    exact ⟨part, operand, closing, whole, .inr ⟨partEnds, atMost⟩, free, closes⟩

/--
In every line of a text that is too long for one, whatever the widths are, a connective
that does not end the line ends within the length for connectives.  So each line is a
part within that length, one operand without a connective, and at most one connective
that closes the line.
-/
theorem breakLines_connectives_within_threshold
    {widths : Widths}
    {text : String}
    (long : widths.line < text.length) :
    ∀ line ∈ breakLines widths text,
      ConnectivesWithin widths.connective (cells line.toList) ∧
        OneOperandBeyond widths.connective (cells line.toList) := by
  intro line member
  rw [← String.length_toList] at long
  have within := connectivesWithin_of_mem_lines long (mem_breakLines_iff.mp member)
  exact ⟨within, within.oneOperandBeyond⟩

/-- A line with connectives inside, one of them quoted, and another that closes it. -/
theorem breakLines_connectives_within_threshold_of_quotation :
    (12 : Int) < "x && 'a && b' || long_operand && y".length ∧
      breakLines ⟨12, 18, 6⟩ "x && 'a && b' || long_operand && y" =
        ["x && 'a && b' || long_operand &&", "y"] ∧
      ConnectivesWithin 18 (cells "x && 'a && b' || long_operand &&".toList) ∧
      OneOperandBeyond 18 (cells "x && 'a && b' || long_operand &&".toList) := by
  have long : (12 : Int) < "x && 'a && b' || long_operand && y".length := by
    decide
  have broken :
      breakLines ⟨12, 18, 6⟩ "x && 'a && b' || long_operand && y" =
        ["x && 'a && b' || long_operand &&", "y"] := by
    decide +kernel
  have first :
      "x && 'a && b' || long_operand &&" ∈
        breakLines ⟨12, 18, 6⟩ "x && 'a && b' || long_operand && y" := by
    simp [broken]
  exact ⟨long, broken,
    @breakLines_connectives_within_threshold ⟨12, 18, 6⟩ _ long _ first⟩

end WorkflowConditions.Layout
