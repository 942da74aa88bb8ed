import WorkflowConditions.Proofs.Text.Quotation

namespace WorkflowConditions.Text

/-!
# Balanced texts

A balanced text is closed, and no parenthesis in it closes more than was opened
before.  Its reader ends outside every quotation, so what follows a balanced text is
read as if it stood alone: balanced texts can be put one after another and into
parentheses.  A quotation is balanced whatever it quotes.
-/

/-- A closed text in which the depth of parentheses never goes below zero. -/
structure Balanced (text : String) : Prop extends Closed text.toList where
  level : ∀ count, 0 ≤ depth ((cells text.toList).take count)

instance (text : String) : Decidable (Balanced text) :=
  decidable_of_iff
    (Closed text.toList ∧
      ∀ count < text.toList.length, 0 ≤ depth ((cells text.toList).take count))
    ⟨fun both =>
        { toClosed := both.1
          level := fun count => by
            by_cases inside : count < text.toList.length
            · exact both.2 count inside
            · have whole : (cells text.toList).take count = cells text.toList :=
                List.take_of_length_le (by simpa using inside)
              exact Int.le_of_eq (both.1.parentheses.symm.trans (congrArg depth whole.symm)) },
      fun balanced => ⟨balanced.toClosed, fun count _ => balanced.level count⟩⟩

/-! ## Putting balanced texts together -/

/-- What follows a closed text is read as if it stood alone. -/
theorem Closed.cells_append
    {first : List Char}
    (closed : Closed first)
    (second : List Char) :
    cells (first ++ second) = cells first ++ cells second := by
  rw [Text.cells_append, closed.quotations]
  rfl

namespace Balanced

/-- A balanced text leaves the reader outside and at depth zero, so another may follow. -/
theorem append
    {first second : String}
    (firstBalanced : Balanced first)
    (secondBalanced : Balanced second) :
    Balanced (first ++ second) := by
  have pieces :
      cells (first ++ second).toList =
        cells first.toList ++ cells second.toList := by
    rw [String.toList_append, firstBalanced.cells_append]
  refine ⟨⟨?_, ?_⟩, ?_⟩
  · rw [String.toList_append, Quotation.after_append, firstBalanced.quotations,
      secondBalanced.quotations]
  · rw [pieces, depth_append, firstBalanced.parentheses, secondBalanced.parentheses]
    rfl
  · intro count
    rw [pieces, List.take_append, depth_append]
    exact Int.add_nonneg (firstBalanced.level count) (secondBalanced.level _)

/-- Parentheses around a balanced text are its outermost pair. -/
theorem parenthesised
    {text : String}
    (balanced : Balanced text) :
    Balanced ("(" ++ text ++ ")") := by
  have letters :
      ("(" ++ text ++ ")").toList = '(' :: (text.toList ++ [')']) := by
    simp
  have pieces :
      cells ("(" ++ text ++ ")").toList =
        .plain '(' :: (cells text.toList ++ [.plain ')']) := by
    rw [letters, cells_cons_of_unmarked (by decide), balanced.cells_append]
    rfl
  refine ⟨⟨?_, ?_⟩, ?_⟩
  · rw [letters, Quotation.after_cons, Quotation.next_outside (by decide),
      Quotation.after_append, balanced.quotations]
    rfl
  · rw [pieces, depth, depth_append, balanced.parentheses]
    rfl
  · intro count
    rw [pieces]
    cases count with
    | zero =>
        exact Int.le_refl 0
    | succ count =>
        -- The closing parenthesis takes back at most what the opening one adds.
        have closing (shown : Nat) : -1 ≤ depth ([Cell.plain ')'].take shown) := by
          cases shown with
          | zero =>
              decide
          | succ shown =>
              rw [List.take_of_length_le (by simp)]
              decide
        have inner := balanced.level count
        have last := closing (count - (cells text.toList).length)
        rw [List.take_succ_cons, depth, Cell.opened_opening, List.take_append,
          depth_append]
        omega

/-- Balanced texts with a balanced separator between them. -/
theorem intercalate
    {separator : String}
    (isBalanced : Balanced separator)
    {texts : List String}
    (each : ∀ text ∈ texts, Balanced text) :
    Balanced (separator.intercalate texts) := by
  induction texts with
  | nil =>
      rw [String.intercalate_nil]
      decide
  | cons text others inductionHypothesis =>
      have first := each text (by simp)
      have later :=
        inductionHypothesis (fun item member => each item (by simp [member]))
      cases others with
      | nil =>
          rw [String.intercalate_singleton]
          exact first
      | cons next rest =>
          rw [String.intercalate_cons_cons]
          exact (first.append isBalanced).append later

end Balanced

/-! ## Quotations -/

/-- A quotation that ends with the next character has that character left. -/
theorem Quotation.remaining_of_ended
    {quotation : Quotation}
    {c : Char}
    (ended : quotation.next c = .outside)
    (rest : List Char) :
    quotation.remaining (c :: rest) = 1 := by
  rw [remaining, ended]

/-- A quotation that goes on has the next character left and what it has left then. -/
theorem Quotation.remaining_of_continued
    {quotation : Quotation}
    {c : Char}
    (continued : quotation.next c ≠ .outside)
    (rest : List Char) :
    quotation.remaining (c :: rest) = (quotation.next c).remaining rest + 1 := by
  rw [remaining]
  cases reached : quotation.next c with
  | outside =>
      exact (continued reached).elim
  | inside mark =>
      exact Nat.add_comm 1 _
  | escaped mark =>
      exact Nat.add_comm 1 _

/-- From inside a quotation, what is left of it is quoted, and what follows is read anew. -/
theorem cellsFrom_eq_quoted_append
    {quotation : Quotation}
    (inside : quotation ≠ .outside)
    (text : List Char) :
    cellsFrom quotation text =
      (text.take (quotation.remaining text)).map (⟨·, true⟩) ++
        cells (text.drop (quotation.remaining text)) := by
  induction text generalizing quotation with
  | nil =>
      rfl
  | cons c rest inductionHypothesis =>
      have covered : quotation.covers c = true := by
        cases quotation with
        | outside =>
            exact (inside rfl).elim
        | inside mark =>
            rfl
        | escaped mark =>
            rfl
      rw [cellsFrom, covered]
      by_cases ended : quotation.next c = .outside
      · rw [Quotation.remaining_of_ended ended, ended]
        rfl
      · rw [Quotation.remaining_of_continued ended, inductionHypothesis ended]
        rfl

/--
A text is one quotation when it begins with a quotation mark and ends where the
substring that this mark opens is closed.
-/
structure IsQuotation (text : String) : Prop where
  opened : text.toList.head?.any isQuotationMark = true
  whole : quotationEnd? text 0 = some text.length
  terminated : Quotation.outside.after text.toList = .outside

instance (text : String) : Decidable (IsQuotation text) :=
  decidable_of_iff
    (text.toList.head?.any isQuotationMark = true ∧
      quotationEnd? text 0 = some text.length ∧
      Quotation.outside.after text.toList = .outside)
    ⟨fun all => ⟨all.1, all.2.1, all.2.2⟩,
      fun quotation => ⟨quotation.opened, quotation.whole, quotation.terminated⟩⟩

/-- All characters of a quotation are quoted, its marks included. -/
theorem IsQuotation.cells_eq
    {text : String}
    (quotation : IsQuotation text) :
    cells text.toList = text.toList.map (⟨·, true⟩) := by
  have opened := quotation.opened
  have whole := quotation.whole
  rw [quotationEnd?, List.drop_zero, ← String.length_toList] at whole
  cases letters : text.toList with
  | nil =>
      rfl
  | cons mark rest =>
      rw [letters] at opened whole
      have isMark : isQuotationMark mark = true := by
        simpa using opened
      have reaches : (Quotation.inside mark).remaining rest = rest.length := by
        simp only [List.length_cons, Option.some.injEq] at whole
        omega
      have starts : Quotation.outside.next mark = .inside mark := by
        simp [Quotation.next, isMark]
      rw [cells, cellsFrom, starts, cellsFrom_eq_quoted_append (by simp), reaches,
        List.take_length, List.drop_length]
      simp [cells, cellsFrom, Quotation.covers, isMark]

/-- Quoted parentheses do not count, so a quotation is balanced. -/
theorem IsQuotation.balanced
    {text : String}
    (quotation : IsQuotation text) :
    Balanced text := by
  have flat (count : Nat) : depth ((cells text.toList).take count) = 0 := by
    apply depth_eq_zero_of_quoted
    intro cell member
    rw [quotation.cells_eq] at member
    obtain ⟨c, _, rfl⟩ := List.mem_map.mp (List.mem_of_mem_take member)
    rfl
  refine ⟨⟨quotation.terminated, ?_⟩, fun count => Int.le_of_eq (flat count).symm⟩
  have whole := flat (cells text.toList).length
  rwa [List.take_length] at whole

end WorkflowConditions.Text
