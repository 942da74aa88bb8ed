import WorkflowConditions.Proofs.Text.Quotation
import WorkflowConditions.Token.Scan

namespace WorkflowConditions.Token

open Text (Cell)

/-!
# How far a literal reaches

A literal looks one cell ahead to tell operators from its own characters.  Cells
that cannot complete an operator therefore do not change how the cells before
them are read, and a literal that takes all of its cells goes on into whatever
follows with the parentheses it has open by then.
-/

/-- Cells whose first one completes no operator that stands before it. -/
def Unfused (following : List Cell) : Prop :=
  ∀ cell ∈ following.head?,
    cell.char ≠ '=' ∧ cell.char ≠ '&' ∧ cell.char ≠ '|'

theorem unfused_nil : Unfused [] := by
  simp [Unfused]

/-- What follows does not complete a connective. -/
theorem connective?_append
    (cell : Cell)
    (rest : List Cell)
    {following : List Cell}
    (unfused : Unfused following) :
    connective? (cell :: (rest ++ following)) =
      connective? (cell :: rest) := by
  cases rest with
  | nil =>
      cases following with
      | nil =>
          rfl
      | cons next later =>
          obtain ⟨_, notAnd, notOr⟩ := unfused next (by simp)
          have nextNotAnd : next ≠ .plain '&' := by
            rintro rfl
            exact notAnd rfl
          have nextNotOr : next ≠ .plain '|' := by
            rintro rfl
            exact notOr rfl
          simp [connective?, nextNotAnd, nextNotOr]
  | cons second others =>
      rfl

/-- What follows does not turn a negation into an inequality. -/
theorem startsNegation_append
    (cell : Cell)
    (rest : List Cell)
    {following : List Cell}
    (unfused : Unfused following) :
    startsNegation (cell :: (rest ++ following)) =
      startsNegation (cell :: rest) := by
  cases rest with
  | nil =>
      cases following with
      | nil =>
          rfl
      | cons next later =>
          obtain ⟨notEqual, _, _⟩ := unfused next (by simp)
          simp [startsNegation, notEqual]
  | cons second others =>
      rfl

/-- Operators are told apart before cells that complete no operator. -/
theorem startsOperator_append
    (cell : Cell)
    (rest : List Cell)
    {following : List Cell}
    (unfused : Unfused following) :
    startsOperator (cell :: (rest ++ following)) =
      startsOperator (cell :: rest) := by
  simp only [startsOperator, connective?_append cell rest unfused,
    startsNegation_append cell rest unfused]

/-- An operator stays one when anything but `=` is put behind it. -/
theorem startsOperator_append_of_true
    {cell : Cell}
    {rest following : List Cell}
    (operator : startsOperator (cell :: rest) = true)
    (notEqual : ∀ next ∈ following.head?, next.char ≠ '=') :
    startsOperator (cell :: (rest ++ following)) = true := by
  cases rest with
  | nil =>
      cases following with
      | nil =>
          exact operator
      | cons next later =>
          have negation : cell = .plain '!' := by
            simpa [startsOperator, connective?, startsNegation] using operator
          have nextNotEqual := notEqual next (by simp)
          simp [startsOperator, startsNegation, negation, nextNotEqual]
  | cons second others =>
      exact operator

/-- An operator begins with one of three plain characters. -/
theorem exists_plain_of_startsOperator
    {cell : Cell}
    {rest : List Cell}
    (operator : startsOperator (cell :: rest) = true) :
    ∃ c, cell = .plain c ∧ (c = '&' ∨ c = '|' ∨ c = '!') := by
  cases rest with
  | nil =>
      have negation : cell = .plain '!' := by
        simpa [startsOperator, connective?, startsNegation] using operator
      exact ⟨'!', negation, by simp⟩
  | cons second others =>
      by_cases isAnd : cell = .plain '&'
      · exact ⟨'&', isAnd, by simp⟩
      · by_cases isOr : cell = .plain '|'
        · exact ⟨'|', isOr, by simp⟩
        · have negation : cell = .plain '!' := by
            simp [startsOperator, connective?, startsNegation, isAnd, isOr]
              at operator
            exact operator.1
          exact ⟨'!', negation, by simp⟩

/-! ## Steps of a literal -/

/-- A literal takes an opening parenthesis along and is one level deeper. -/
theorem literalLength_opening
    (depth : Nat)
    (rest : List Cell) :
    literalLength depth (.plain '(' :: rest) =
      1 + literalLength (depth + 1) rest := by
  simp [literalLength]

/-- A literal closes the parentheses that it has opened. -/
theorem literalLength_closing
    (outer : Nat)
    (rest : List Cell) :
    literalLength (outer + 1) (.plain ')' :: rest) =
      1 + literalLength outer rest := by
  simp [literalLength, Cell.plain]

/-- A literal ends at a parenthesis that it has not opened. -/
theorem literalLength_closing_zero
    (rest : List Cell) :
    literalLength 0 (.plain ')' :: rest) = 0 := by
  simp [literalLength, Cell.plain]

/-- A literal ends at an operator at its own depth. -/
theorem literalLength_operator
    {cell : Cell}
    {rest : List Cell}
    (operator : startsOperator (cell :: rest) = true) :
    literalLength 0 (cell :: rest) = 0 := by
  obtain ⟨c, rfl, which⟩ := exists_plain_of_startsOperator operator
  have notOpening : Cell.plain c ≠ .plain '(' := by
    intro same
    have sameChar : c = '(' := congrArg Cell.char same
    simp [sameChar] at which
  have notClosing : Cell.plain c ≠ .plain ')' := by
    intro same
    have sameChar : c = ')' := congrArg Cell.char same
    simp [sameChar] at which
  unfold literalLength
  rw [if_neg notOpening, if_neg notClosing, if_pos ⟨rfl, operator⟩]

/-- A literal takes any other cell along, and operators in parentheses too. -/
theorem literalLength_other
    {depth : Nat}
    {cell : Cell}
    {rest : List Cell}
    (notOpening : cell ≠ .plain '(')
    (notClosing : cell ≠ .plain ')')
    (noOperator : depth = 0 → startsOperator (cell :: rest) = false) :
    literalLength depth (cell :: rest) = 1 + literalLength depth rest := by
  have goesOn : ¬(depth = 0 ∧ startsOperator (cell :: rest) = true) := by
    rintro ⟨atZero, operator⟩
    rw [noOperator atZero] at operator
    contradiction
  conv =>
    left
    unfold literalLength
  rw [if_neg notOpening, if_neg notClosing, if_neg goesOn]

/-- Where a literal ends: at a parenthesis it did not open, or at an operator. -/
def EndsLiteral : List Cell → Prop
  | [] => True
  | cell :: rest => cell = .plain ')' ∨ startsOperator (cell :: rest) = true

/-- Where a literal ends it takes nothing more. -/
theorem EndsLiteral.literalLength_eq_zero
    {cells : List Cell}
    (ends : EndsLiteral cells) :
    literalLength 0 cells = 0 := by
  cases cells with
  | nil =>
      rfl
  | cons cell rest =>
      rcases ends with rfl | operator
      · exact literalLength_closing_zero rest
      · exact literalLength_operator operator

/-- What a literal does with the next cell. -/
theorem literal_step_cases
    (depth : Nat)
    (cell : Cell)
    (rest : List Cell) :
    cell = .plain '(' ∨
      (cell = .plain ')' ∧ ∃ outer, depth = outer + 1) ∨
      (depth = 0 ∧ EndsLiteral (cell :: rest)) ∨
      (cell ≠ .plain '(' ∧ cell ≠ .plain ')' ∧
        (depth = 0 → startsOperator (cell :: rest) = false)) := by
  by_cases opening : cell = .plain '('
  · exact .inl opening
  · by_cases closing : cell = .plain ')'
    · cases depth with
      | zero =>
          exact .inr (.inr (.inl ⟨rfl, .inl closing⟩))
      | succ outer =>
          exact .inr (.inl ⟨closing, outer, rfl⟩)
    · by_cases operator : startsOperator (cell :: rest) = true
      · cases depth with
        | zero =>
            exact .inr (.inr (.inl ⟨rfl, .inr operator⟩))
        | succ outer =>
            exact .inr (.inr (.inr ⟨opening, closing, by simp⟩))
      · exact .inr (.inr (.inr ⟨opening, closing, by simp [operator]⟩))

/-! ## Whole literals -/

/-- A literal takes no more than there is. -/
theorem literalLength_le
    (depth : Nat)
    (cells : List Cell) :
    literalLength depth cells ≤ cells.length := by
  induction cells generalizing depth with
  | nil =>
      simp [literalLength]
  | cons cell rest inductionHypothesis =>
      rcases literal_step_cases depth cell rest with
        rfl | ⟨rfl, outer, rfl⟩ | ⟨rfl, ends⟩ |
          ⟨notOpening, notClosing, noOperator⟩
      · have later := inductionHypothesis (depth + 1)
        rw [literalLength_opening, List.length_cons]
        omega
      · have later := inductionHypothesis outer
        rw [literalLength_closing, List.length_cons]
        omega
      · rw [ends.literalLength_eq_zero]
        exact Nat.zero_le _
      · have later := inductionHypothesis depth
        rw [literalLength_other notOpening notClosing noOperator,
          List.length_cons]
        omega

/-- A literal that ends before its cells do is not changed by what follows them. -/
theorem literalLength_append_of_lt
    {depth : Nat}
    {cells following : List Cell}
    (unfused : Unfused following)
    (ended : literalLength depth cells < cells.length) :
    literalLength depth (cells ++ following) =
      literalLength depth cells := by
  induction cells generalizing depth with
  | nil =>
      simp at ended
  | cons cell rest inductionHypothesis =>
      rw [List.cons_append]
      rcases literal_step_cases depth cell rest with
        rfl | ⟨rfl, outer, rfl⟩ | ⟨rfl, ends⟩ |
          ⟨notOpening, notClosing, noOperator⟩
      · rw [literalLength_opening, List.length_cons] at ended
        rw [literalLength_opening, literalLength_opening,
          inductionHypothesis (by omega)]
      · rw [literalLength_closing, List.length_cons] at ended
        rw [literalLength_closing, literalLength_closing,
          inductionHypothesis (by omega)]
      · have endsStill : EndsLiteral (cell :: (rest ++ following)) := by
          rcases ends with closing | operator
          · exact .inl closing
          · exact .inr
              ((startsOperator_append cell rest unfused).trans operator)
        rw [ends.literalLength_eq_zero, endsStill.literalLength_eq_zero]
      · have noOperatorStill :
            depth = 0 →
              startsOperator (cell :: (rest ++ following)) = false := by
          intro atZero
          rw [startsOperator_append cell rest unfused]
          exact noOperator atZero
        rw [literalLength_other notOpening notClosing noOperator,
          List.length_cons] at ended
        rw [literalLength_other notOpening notClosing noOperator,
          literalLength_other notOpening notClosing noOperatorStill,
          inductionHypothesis (by omega)]

/--
A literal that takes all of its cells goes on into what follows them, with as
many parentheses open as the cells left open.
-/
theorem literalLength_append_of_eq
    {depth : Nat}
    {cells following : List Cell}
    (unfused : Unfused following)
    (whole : literalLength depth cells = cells.length) :
    ∃ inner : Nat,
      (inner : Int) = depth + Text.depth cells ∧
        literalLength depth (cells ++ following) =
          cells.length + literalLength inner following := by
  induction cells generalizing depth with
  | nil =>
      exact ⟨depth, by simp [Text.depth], by simp⟩
  | cons cell rest inductionHypothesis =>
      rw [List.cons_append]
      rcases literal_step_cases depth cell rest with
        rfl | ⟨rfl, outer, rfl⟩ | ⟨rfl, ends⟩ |
          ⟨notOpening, notClosing, noOperator⟩
      · rw [literalLength_opening, List.length_cons] at whole
        obtain ⟨inner, reached, later⟩ :=
          @inductionHypothesis (depth + 1) (by omega)
        refine ⟨inner, ?_, ?_⟩
        · rw [reached, Text.depth, Cell.opened_opening]
          omega
        · rw [literalLength_opening, later, List.length_cons]
          omega
      · rw [literalLength_closing, List.length_cons] at whole
        obtain ⟨inner, reached, later⟩ :=
          @inductionHypothesis outer (by omega)
        refine ⟨inner, ?_, ?_⟩
        · rw [reached, Text.depth, Cell.opened_closing]
          omega
        · rw [literalLength_closing, later, List.length_cons]
          omega
      · rw [ends.literalLength_eq_zero] at whole
        simp at whole
      · have noOperatorStill :
            depth = 0 →
              startsOperator (cell :: (rest ++ following)) = false := by
          intro atZero
          rw [startsOperator_append cell rest unfused]
          exact noOperator atZero
        rw [literalLength_other notOpening notClosing noOperator,
          List.length_cons] at whole
        obtain ⟨inner, reached, later⟩ :=
          @inductionHypothesis depth (by omega)
        refine ⟨inner, ?_, ?_⟩
        · rw [reached, Text.depth, Cell.opened_of_other notOpening notClosing,
            Int.zero_add]
        · rw [literalLength_other notOpening notClosing noOperatorStill,
            later, List.length_cons]
          omega

/--
Within a literal that takes all of its cells, the depth never falls below zero and
no operator stands at depth zero.
-/
theorem literal_holds_together
    {depth : Nat}
    {before after : List Cell}
    (whole :
      literalLength depth (before ++ after) = (before ++ after).length) :
    0 ≤ depth + Text.depth before ∧
      (depth + Text.depth before = 0 → startsOperator after = false) := by
  induction before generalizing depth with
  | nil =>
      refine ⟨by simp [Text.depth], fun atZero => ?_⟩
      obtain rfl : depth = 0 := by simpa [Text.depth] using atZero
      cases operator : startsOperator after with
      | false =>
          rfl
      | true =>
          cases after with
          | nil =>
              cases operator
          | cons cell rest =>
              rw [List.nil_append, literalLength_operator operator] at whole
              cases whole
  | cons cell rest inductionHypothesis =>
      rw [List.cons_append, List.length_cons] at whole
      rcases literal_step_cases depth cell (rest ++ after) with
        rfl | ⟨rfl, outer, rfl⟩ | ⟨rfl, ends⟩ |
          ⟨notOpening, notClosing, noOperator⟩
      · rw [literalLength_opening] at whole
        have later := @inductionHypothesis (depth + 1) (by omega)
        rw [Text.depth, Cell.opened_opening, ← Int.add_assoc]
        exact later
      · rw [literalLength_closing] at whole
        have later := @inductionHypothesis outer (by omega)
        have sameDepth :
            ((outer + 1 : Nat) : Int) + (-1 + Text.depth rest) =
              outer + Text.depth rest := by
          omega
        rw [Text.depth, Cell.opened_closing, sameDepth]
        exact later
      · rw [ends.literalLength_eq_zero] at whole
        cases whole
      · rw [literalLength_other notOpening notClosing noOperator] at whole
        have later := @inductionHypothesis depth (by omega)
        rw [Text.depth, Cell.opened_of_other notOpening notClosing,
          Int.zero_add]
        exact later

/--
A literal that ends before its cells do ends at depth zero, at a parenthesis that
it did not open or at an operator.
-/
theorem literal_ends
    {depth : Nat}
    {cells : List Cell}
    (ended : literalLength depth cells < cells.length) :
    depth + Text.depth (cells.take (literalLength depth cells)) = 0 ∧
      EndsLiteral (cells.drop (literalLength depth cells)) := by
  induction cells generalizing depth with
  | nil =>
      simp at ended
  | cons cell rest inductionHypothesis =>
      rcases literal_step_cases depth cell rest with
        rfl | ⟨rfl, outer, rfl⟩ | ⟨rfl, ends⟩ |
          ⟨notOpening, notClosing, noOperator⟩
      · rw [literalLength_opening, List.length_cons] at ended
        obtain ⟨balanced, ends⟩ :=
          @inductionHypothesis (depth + 1) (by omega)
        rw [literalLength_opening, Nat.add_comm 1]
        refine ⟨?_, ends⟩
        rw [List.take_succ_cons, Text.depth, Cell.opened_opening]
        omega
      · rw [literalLength_closing, List.length_cons] at ended
        obtain ⟨balanced, ends⟩ :=
          @inductionHypothesis outer (by omega)
        rw [literalLength_closing, Nat.add_comm 1]
        refine ⟨?_, ends⟩
        rw [List.take_succ_cons, Text.depth, Cell.opened_closing]
        omega
      · rw [ends.literalLength_eq_zero]
        exact ⟨by simp [Text.depth], ends⟩
      · rw [literalLength_other notOpening notClosing noOperator,
          List.length_cons] at ended
        obtain ⟨balanced, ends⟩ :=
          @inductionHypothesis depth (by omega)
        rw [literalLength_other notOpening notClosing noOperator,
          Nat.add_comm 1]
        refine ⟨?_, ends⟩
        rw [List.take_succ_cons, Text.depth,
          Cell.opened_of_other notOpening notClosing, Int.zero_add]
        exact balanced

/-- A literal that reaches beyond some cells takes all of them by themselves. -/
theorem literalLength_of_append
    {depth : Nat}
    {cells following : List Cell}
    (notEqual : ∀ next ∈ following.head?, next.char ≠ '=')
    (reaches : cells.length ≤ literalLength depth (cells ++ following)) :
    literalLength depth cells = cells.length := by
  induction cells generalizing depth with
  | nil =>
      rfl
  | cons cell rest inductionHypothesis =>
      rw [List.cons_append, List.length_cons] at reaches
      rcases literal_step_cases depth cell rest with
        rfl | ⟨rfl, outer, rfl⟩ | ⟨rfl, ends⟩ |
          ⟨notOpening, notClosing, noOperator⟩
      · rw [literalLength_opening] at reaches
        rw [literalLength_opening, inductionHypothesis (by omega),
          List.length_cons, Nat.add_comm]
      · rw [literalLength_closing] at reaches
        rw [literalLength_closing, inductionHypothesis (by omega),
          List.length_cons, Nat.add_comm]
      · have endsStill : EndsLiteral (cell :: (rest ++ following)) := by
          rcases ends with closing | operator
          · exact .inl closing
          · exact .inr (startsOperator_append_of_true operator notEqual)
        rw [endsStill.literalLength_eq_zero] at reaches
        simp at reaches
      · have later : rest.length ≤ literalLength depth (rest ++ following) := by
          rcases literal_step_cases depth cell (rest ++ following) with
            opening | ⟨closing, _⟩ | ⟨rfl, ends⟩ | ⟨_, _, noOperatorStill⟩
          · exact (notOpening opening).elim
          · exact (notClosing closing).elim
          · rw [ends.literalLength_eq_zero] at reaches
            simp at reaches
          · rw [literalLength_other notOpening notClosing noOperatorStill]
              at reaches
            omega
        rw [literalLength_other notOpening notClosing noOperator,
          inductionHypothesis later, List.length_cons, Nat.add_comm]

end WorkflowConditions.Token
