import WorkflowConditions.Text.Quotation

namespace WorkflowConditions.Text

/-!
# Quoted regions and closed texts

The reader of quotations is a state machine, so the cells of a concatenation are
the cells of its parts, the second part being read from where the first one left
the reader.  A text is closed when the reader ends outside every quotation and
as many parentheses were closed as opened, those inside quotations left aside.
-/

/-- White space is no quotation mark. -/
theorem isQuotationMark_of_isSpace
    {c : Char}
    (space : isSpace c = true) :
    isQuotationMark c = false := by
  cases mark : isQuotationMark c with
  | false =>
      rfl
  | true =>
      simp only [isQuotationMark, Bool.or_eq_true, beq_iff_eq] at mark
      rcases mark with (rfl | rfl) | rfl <;>
        simp [isSpace] at space

namespace Quotation

/-- Where the reader stands after a whole text. -/
def after (quotation : Quotation) (text : List Char) : Quotation :=
  text.foldl next quotation

@[simp] theorem after_nil (quotation : Quotation) :
    quotation.after [] = quotation :=
  rfl

@[simp] theorem after_cons
    (quotation : Quotation)
    (c : Char)
    (rest : List Char) :
    quotation.after (c :: rest) = (quotation.next c).after rest :=
  rfl

/-- A text is read one part after the other. -/
@[simp] theorem after_append
    (quotation : Quotation)
    (first second : List Char) :
    quotation.after (first ++ second) =
      (quotation.after first).after second :=
  List.foldl_append

/-- Only outside every quotation is a character left plain. -/
theorem eq_outside_of_covers
    {quotation : Quotation}
    {c : Char}
    (uncovered : quotation.covers c = false) :
    quotation = .outside := by
  cases quotation with
  | outside =>
      rfl
  | inside mark =>
      simp [covers] at uncovered
  | escaped mark =>
      simp [covers] at uncovered

/-- Only a quotation mark leads inside. -/
theorem next_outside
    {c : Char}
    (unmarked : isQuotationMark c = false) :
    outside.next c = .outside := by
  simp [next, unmarked]

/-- An open quotation was opened by a quotation mark. -/
def Marked : Quotation → Prop
  | .outside => True
  | .inside mark => isQuotationMark mark = true
  | .escaped mark => isQuotationMark mark = true

/-- The mark of a quotation is a quotation mark at every step. -/
theorem Marked.next
    {quotation : Quotation}
    (marked : quotation.Marked)
    (c : Char) :
    (quotation.next c).Marked := by
  cases quotation with
  | outside =>
      by_cases mark : isQuotationMark c = true <;>
        simp [Quotation.next, Marked, mark]
  | inside mark =>
      simp only [Quotation.next]
      split
      · exact trivial
      · split
        · exact marked
        · exact marked
  | escaped mark =>
      exact marked

/-- The mark of a quotation is a quotation mark all along. -/
theorem Marked.after
    {quotation : Quotation}
    (marked : quotation.Marked)
    (text : List Char) :
    (quotation.after text).Marked := by
  induction text generalizing quotation with
  | nil =>
      exact marked
  | cons c rest inductionHypothesis =>
      exact inductionHypothesis (marked.next c)

/-- White space does not close a quotation. -/
theorem Marked.eq_outside_of_next_space
    {quotation : Quotation}
    {c : Char}
    (marked : quotation.Marked)
    (space : isSpace c = true)
    (ended : quotation.next c = .outside) :
    quotation = .outside := by
  cases quotation with
  | outside =>
      rfl
  | inside mark =>
      have distinct : c ≠ mark := by
        intro same
        subst mark
        have unmarked := isQuotationMark_of_isSpace space
        rw [show isQuotationMark c = true from marked] at unmarked
        contradiction
      simp only [Quotation.next, if_neg distinct] at ended
      split at ended <;>
        cases ended
  | escaped mark =>
      simp [Quotation.next] at ended

/-- White space ends no quotation. -/
theorem Marked.eq_outside_of_after_spaces
    {quotation : Quotation}
    {spaces : List Char}
    (marked : quotation.Marked)
    (blank : ∀ c ∈ spaces, isSpace c = true)
    (ended : quotation.after spaces = .outside) :
    quotation = .outside := by
  induction spaces generalizing quotation with
  | nil =>
      exact ended
  | cons c rest inductionHypothesis =>
      have nextOutside : quotation.next c = .outside :=
        inductionHypothesis (marked.next c)
          (fun later member => blank later (by simp [member])) ended
      exact marked.eq_outside_of_next_space (blank c (by simp)) nextOutside

end Quotation

/-! ## Cells of a concatenation -/

/-- The second of two texts is read from where the first one left the reader. -/
theorem cellsFrom_append
    (quotation : Quotation)
    (first second : List Char) :
    cellsFrom quotation (first ++ second) =
      cellsFrom quotation first ++
        cellsFrom (quotation.after first) second := by
  induction first generalizing quotation with
  | nil =>
      rfl
  | cons c rest inductionHypothesis =>
      simp [cellsFrom, inductionHypothesis]

/-- The second part is read from where the first one leaves the reader. -/
theorem cells_append
    (first second : List Char) :
    cells (first ++ second) =
      cells first ++ cellsFrom (Quotation.outside.after first) second :=
  cellsFrom_append .outside first second

@[simp] theorem length_cellsFrom
    (quotation : Quotation)
    (text : List Char) :
    (cellsFrom quotation text).length = text.length := by
  induction text generalizing quotation with
  | nil =>
      rfl
  | cons c rest inductionHypothesis =>
      simp [cellsFrom, inductionHypothesis]

@[simp] theorem length_cells (text : List Char) :
    (cells text).length = text.length :=
  length_cellsFrom .outside text

/-- How a front is read does not depend on what follows. -/
theorem take_cellsFrom
    (quotation : Quotation)
    (text : List Char)
    (count : Nat) :
    (cellsFrom quotation text).take count =
      cellsFrom quotation (text.take count) := by
  induction text generalizing quotation count with
  | nil =>
      simp [cellsFrom]
  | cons c rest inductionHypothesis =>
      cases count with
      | zero =>
          simp [cellsFrom]
      | succ count =>
          simp [cellsFrom, inductionHypothesis]

/-- The cells after the first ones are read from where those left the reader. -/
theorem drop_cellsFrom
    (quotation : Quotation)
    (text : List Char)
    (count : Nat) :
    (cellsFrom quotation text).drop count =
      cellsFrom (quotation.after (text.take count)) (text.drop count) := by
  induction text generalizing quotation count with
  | nil =>
      simp [cellsFrom]
  | cons c rest inductionHypothesis =>
      cases count with
      | zero =>
          simp
      | succ count =>
          simp [cellsFrom, inductionHypothesis]

/-- A character that is no mark leaves the reader outside. -/
theorem cells_cons_of_unmarked
    {c : Char}
    (unmarked : isQuotationMark c = false)
    (rest : List Char) :
    cells (c :: rest) = .plain c :: cells rest := by
  simp [cells, cellsFrom, Quotation.covers, Quotation.next_outside unmarked,
    unmarked, Cell.plain]

/-! ## Closed texts -/

/-- What a cell adds to the number of open parentheses. -/
def Cell.opened (cell : Cell) : Int :=
  if cell = .plain '(' then 1
  else if cell = .plain ')' then -1
  else 0

theorem Cell.opened_opening :
    (Cell.plain '(').opened = 1 := rfl

theorem Cell.opened_closing :
    (Cell.plain ')').opened = -1 := rfl

theorem Cell.opened_of_other
    {cell : Cell}
    (notOpening : cell ≠ .plain '(')
    (notClosing : cell ≠ .plain ')') :
    cell.opened = 0 := by
  rw [opened, if_neg notOpening, if_neg notClosing]

/-- How many more parentheses some cells open than close. -/
def depth : List Cell → Int
  | [] => 0
  | cell :: rest => cell.opened + depth rest

/-- Depths add up. -/
theorem depth_append
    (first second : List Cell) :
    depth (first ++ second) = depth first + depth second := by
  induction first with
  | nil =>
      simp [depth]
  | cons cell rest inductionHypothesis =>
      simp only [List.cons_append, depth, inductionHypothesis]
      omega

/-- Quoted parentheses do not count. -/
theorem depth_eq_zero_of_quoted
    {quoted : List Cell}
    (inside : ∀ cell ∈ quoted, cell.quoted = true) :
    depth quoted = 0 := by
  induction quoted with
  | nil =>
      rfl
  | cons cell others inductionHypothesis =>
      have isQuoted := inside cell (by simp)
      have notPlain (c : Char) : cell ≠ .plain c := by
        rintro rfl
        cases isQuoted
      rw [depth, Cell.opened_of_other (notPlain _) (notPlain _),
        inductionHypothesis (fun item member => inside item (by simp [member]))]
      rfl

/-- White space has no parentheses, quoted or not. -/
theorem depth_cellsFrom_spaces
    (quotation : Quotation)
    {spaces : List Char}
    (blank : ∀ c ∈ spaces, isSpace c = true) :
    depth (cellsFrom quotation spaces) = 0 := by
  induction spaces generalizing quotation with
  | nil =>
      rfl
  | cons c rest inductionHypothesis =>
      have space := blank c (by simp)
      have notOpening : (⟨c, quotation.covers c⟩ : Cell) ≠ .plain '(' := by
        intro same
        have isOpening : c = '(' := congrArg Cell.char same
        simp [isOpening, isSpace] at space
      have notClosing : (⟨c, quotation.covers c⟩ : Cell) ≠ .plain ')' := by
        intro same
        have isClosing : c = ')' := congrArg Cell.char same
        simp [isClosing, isSpace] at space
      have later :=
        inductionHypothesis (quotation.next c)
          (fun item member => blank item (by simp [member]))
      rw [cellsFrom, depth, Cell.opened_of_other notOpening notClosing, later,
        Int.add_zero]

/--
A text is closed when every quotation in it is terminated and its parentheses
outside quotations end at depth zero.
-/
structure Closed (text : List Char) : Prop where
  quotations : Quotation.outside.after text = .outside
  parentheses : depth (cells text) = 0

instance (text : List Char) : Decidable (Closed text) :=
  decidable_of_iff
    (Quotation.outside.after text = .outside ∧ depth (cells text) = 0)
    ⟨fun both => ⟨both.1, both.2⟩,
      fun closed => ⟨closed.quotations, closed.parentheses⟩⟩

/-- White space leads into no quotation. -/
theorem Quotation.after_outside_spaces
    {spaces : List Char}
    (blank : ∀ c ∈ spaces, isSpace c = true) :
    outside.after spaces = .outside := by
  induction spaces with
  | nil =>
      rfl
  | cons c rest inductionHypothesis =>
      have unmarked := isQuotationMark_of_isSpace (blank c (by simp))
      rw [after_cons, next_outside unmarked]
      exact inductionHypothesis
        (fun later member => blank later (by simp [member]))

/-- White space behind a closed text leaves it closed. -/
theorem Closed.append_spaces
    {text spaces : List Char}
    (closed : Closed text)
    (blank : ∀ c ∈ spaces, isSpace c = true) :
    Closed (text ++ spaces) := by
  constructor
  · rw [Quotation.after_append, closed.quotations,
      Quotation.after_outside_spaces blank]
  · have whole := closed.parentheses
    rw [cells_append, depth_append, whole,
      depth_cellsFrom_spaces _ blank]
    rfl

/-- White space at its end does not keep a text open. -/
theorem Closed.of_append_spaces
    {text spaces : List Char}
    (blank : ∀ c ∈ spaces, isSpace c = true)
    (closed : Closed (text ++ spaces)) :
    Closed text := by
  have initiallyMarked : Quotation.outside.Marked := trivial
  have marked := initiallyMarked.after text
  constructor
  · apply marked.eq_outside_of_after_spaces blank
    simpa using closed.quotations
  · have whole := closed.parentheses
    rw [cells_append, depth_append, depth_cellsFrom_spaces _ blank] at whole
    simpa using whole

end WorkflowConditions.Text
