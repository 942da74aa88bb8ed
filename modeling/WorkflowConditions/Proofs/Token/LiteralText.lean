import WorkflowConditions.Proofs.Token.Seam

namespace WorkflowConditions.Token

open Text (Cell Quotation cells cellsFrom isSpace isQuotationMark Closed)

/-!
# The texts of literals

The text of a literal token is one literal again when it stands alone.  It is
closed wherever it stands, unless it runs to the end of the scanned text: only
there can a quotation or a parenthesis of its own stay open.
-/

/-- A text that is a single literal, without white space around it. -/
def IsLiteral (text : String) : Prop :=
  body text = [⟨.literal, text, 0⟩]

/-- A trimmed text that a literal takes whole is a single literal. -/
theorem isLiteral_of_reachesEnd
    {c : Char}
    {rest : List Char}
    (visible : isSpace c = false)
    (reaches : ReachesEnd c rest)
    (trimmed : Text.trimChars (c :: rest) = c :: rest) :
    IsLiteral (String.ofList (c :: rest)) := by
  rw [IsLiteral, body, String.toList_ofList,
    scanFrom_visible 0 rest visible, reaches.leading_eq.1,
    List.take_length, List.drop_length, trimmed, scanFrom_nil]

/-- A literal does not end before an equals sign. -/
private theorem head_ne_equal_of_endsLiteral
    {cells : List Cell}
    (ends : EndsLiteral cells) :
    ∀ next ∈ cells.head?, next.char ≠ '=' := by
  cases cells with
  | nil =>
      simp
  | cons cell rest =>
      intro next first
      obtain rfl : cell = next := by simpa using first
      rcases ends with rfl | operator
      · decide
      · obtain ⟨expected, rfl, which⟩ :=
          exists_plain_of_startsOperator operator
        rcases which with rfl | rfl | rfl <;>
          decide

/-- A literal ends at the end of its cells, at an operator or at a parenthesis. -/
theorem endsLiteral_drop
    (found : List Cell) :
    EndsLiteral (found.drop (literalLength 0 found)) := by
  by_cases ended : literalLength 0 found < found.length
  · exact (literal_ends ended).2
  · rw [List.drop_eq_nil_of_le (Nat.not_lt.mp ended)]
    exact trivial

/-- What follows a literal is not seen when its trimmed text is read alone. -/
private theorem reachesEnd_of_trimmed
    {c : Char}
    {rest kept spaces : List Char}
    (notOpening : c ≠ '(')
    (taken : literalLength 0 (cells (c :: rest)) ≠ 0)
    (split :
      rest.take
          (literalLength 0 (cellsFrom (Quotation.outside.next c) rest)) =
        kept ++ spaces)
    (blank : ∀ item ∈ spaces, isSpace item = true) :
    ReachesEnd c kept := by
  obtain ⟨_, length⟩ := leading_literal notOpening taken
  generalize reach :
    literalLength 0 (cellsFrom (Quotation.outside.next c) rest) = count
    at split length
  have whole :
      c :: rest = (c :: kept) ++ (spaces ++ rest.drop count) := by
    rw [List.cons_append, ← List.append_assoc, ← split,
      List.take_append_drop]
  -- An operator that ended the literal would be undone by `=` alone.
  have notEqual :
      ∀ next ∈
          (cellsFrom (Quotation.outside.after (c :: kept))
            (spaces ++ rest.drop count)).head?,
        next.char ≠ '=' := by
    cases spaces with
    | nil =>
        have ends :=
          endsLiteral_drop (cellsFrom (Quotation.outside.next c) rest)
        rw [reach, Text.drop_cellsFrom, split, List.append_nil] at ends
        exact head_ne_equal_of_endsLiteral ends
    | cons first later =>
        intro next isFirst
        rw [List.cons_append, cellsFrom, List.head?_cons,
          Option.mem_some_iff] at isFirst
        subst next
        rintro rfl
        have space := blank '=' (by simp)
        simp [isSpace] at space
  have keptLength : kept.length ≤ count := by
    have taken := congrArg List.length split
    rw [List.length_take, List.length_append] at taken
    omega
  have reaches :
      (cells (c :: kept)).length ≤
        literalLength 0
          (cells (c :: kept) ++
            cellsFrom (Quotation.outside.after (c :: kept))
              (spaces ++ rest.drop count)) := by
    rw [← Text.cells_append, ← whole, length, Text.length_cells,
      List.length_cons]
    omega
  refine ⟨notOpening, ?_⟩
  rw [literalLength_of_append notEqual reaches]
  simp

/-- The text of a literal is scanned as that literal again. -/
private theorem isLiteral_leading
    {c : Char}
    {rest : List Char}
    (visible : isSpace c = false)
    (notOpening : c ≠ '(')
    (taken : literalLength 0 (cells (c :: rest)) ≠ 0) :
    IsLiteral
      (String.ofList
        (Text.trimChars (c :: rest.take (leading c rest).tail))) := by
  obtain ⟨isLiteral, _⟩ := leading_literal notOpening taken
  rw [isLiteral]
  generalize run : rest.take _ = taking
  obtain ⟨spaces, whole, blank⟩ := Text.exists_trimBy_append taking visible
  obtain ⟨kept, trimmed⟩ := Text.exists_trimBy_eq_cons taking visible
  have twice := Text.trimBy_trimBy_of_kept_head taking visible
  rw [trimmed] at whole twice
  rw [Text.trimChars, trimmed]
  have split : rest.take _ = kept ++ spaces :=
    run.trans (List.cons.inj whole).2
  exact isLiteral_of_reachesEnd visible
    (reachesEnd_of_trimmed notOpening taken split blank) twice

/-- Where a literal begins there is something that a literal takes. -/
theorem taken_of_leading_literal
    {c : Char}
    {rest : List Char}
    (isLiteral : (leading c rest).kind = .literal) :
    c ≠ '(' ∧ literalLength 0 (cells (c :: rest)) ≠ 0 := by
  rcases leading_cases c rest with
    ⟨rfl, others, rfl⟩ | ⟨rfl, others, rfl⟩ | ⟨rfl, notEqual⟩ | rfl | rfl |
      literal
  · cases isLiteral
  · cases isLiteral
  · rw [leading_not notEqual] at isLiteral
    cases isLiteral
  · rw [leading_opening] at isLiteral
    cases isLiteral
  · rw [leading_closing] at isLiteral
    cases isLiteral
  · exact literal

/-- Every token of a text is what some part of the text begins with. -/
theorem exists_leading_of_mem_scanFrom
    {position : Nat}
    {text : List Char}
    {token : Token}
    (member : token ∈ scanFrom position (cells text)) :
    ∃ c rest,
      isSpace c = false ∧
        token.kind = (leading c rest).kind ∧
        token.text =
          String.ofList
            (Text.trimChars (c :: rest.take (leading c rest).tail)) := by
  induction text using scan_induction generalizing position with
  | nil =>
      simp at member
  | space c rest space inductionHypothesis =>
      rw [scanFrom_space position rest space] at member
      exact inductionHypothesis member
  | token c rest visible inductionHypothesis =>
      rw [scanFrom_visible position rest visible] at member
      rcases List.mem_cons.mp member with rfl | inRest
      · exact ⟨c, rest, visible, rfl, rfl⟩
      · exact inductionHypothesis inRest

/-- The text of every literal token is a single literal. -/
theorem isLiteral_of_mem_scanFrom
    {position : Nat}
    {text : List Char}
    {token : Token}
    (member : token ∈ scanFrom position (cells text))
    (isLiteral : token.kind = .literal) :
    IsLiteral token.text := by
  obtain ⟨c, rest, visible, kind, found⟩ := exists_leading_of_mem_scanFrom member
  obtain ⟨notOpening, taken⟩ :=
    taken_of_leading_literal (kind.symm.trans isLiteral)
  rw [found]
  exact isLiteral_leading visible notOpening taken

/-- A literal that ends before its text does is closed. -/
theorem closed_leading
    {c : Char}
    {rest : List Char}
    (visible : isSpace c = false)
    (notOpening : c ≠ '(')
    (taken : literalLength 0 (cells (c :: rest)) ≠ 0)
    (ended : ¬ReachesEnd c rest) :
    Closed (Text.trimChars (c :: rest.take (leading c rest).tail)) := by
  obtain ⟨isLiteral, length⟩ := leading_literal notOpening taken
  have unreached := literalLength_lt_of_not_reachesEnd notOpening ended
  obtain ⟨balanced, _⟩ := literal_ends unreached
  rw [Text.length_cells, List.length_cons] at unreached
  rw [length, cells, Text.take_cellsFrom, Nat.add_comm 1,
    List.take_succ_cons] at balanced
  rw [isLiteral]
  have closed :
      Closed
        (c :: rest.take
          (literalLength 0 (cellsFrom (Quotation.outside.next c) rest))) := by
    constructor
    · exact literal_leaves_outside (by omega)
    · simpa [cells] using balanced
  obtain ⟨spaces, whole, blank⟩ :=
    Text.exists_trimBy_append
      (rest.take
        (literalLength 0 (cellsFrom (Quotation.outside.next c) rest)))
      visible
  rw [whole] at closed
  exact closed.of_append_spaces blank

/--
A literal token is closed unless it is the last token and its text, up to white
space, the end of the scanned text.
-/
theorem closed_or_last_of_mem_scanFrom
    {position : Nat}
    {text : List Char}
    {token : Token}
    (member : token ∈ scanFrom position (cells text))
    (isLiteral : token.kind = .literal) :
    Closed token.text.toList ∨
      ∃ earlier before spaces,
        scanFrom position (cells text) = earlier ++ [token] ∧
          text = before ++ (token.text.toList ++ spaces) ∧
          ∀ c ∈ spaces, isSpace c = true := by
  induction text using scan_induction generalizing position with
  | nil =>
      simp at member
  | space c rest space inductionHypothesis =>
      rw [scanFrom_space position rest space] at member ⊢
      rcases inductionHypothesis member with closed |
        ⟨earlier, before, spaces, tokens, rfl, blank⟩
      · exact .inl closed
      · exact .inr ⟨earlier, c :: before, spaces, tokens, rfl, blank⟩
  | token c rest visible inductionHypothesis =>
      rw [scanFrom_visible position rest visible] at member ⊢
      rcases List.mem_cons.mp member with isHead | inRest
      · obtain ⟨notOpening, taken⟩ :=
          taken_of_leading_literal (isHead ▸ isLiteral)
        by_cases reaches : ReachesEnd c rest
        · right
          obtain ⟨spaces, whole, blank⟩ :=
            Text.exists_trimBy_append rest visible
          rw [reaches.leading_eq.1, List.take_length] at isHead ⊢
          rw [List.drop_length, scanFrom_nil, isHead]
          refine ⟨[], [], spaces, rfl, ?_, blank⟩
          simpa [Text.trimChars] using whole
        · left
          subst isHead
          simpa using closed_leading visible notOpening taken reaches
      · rcases inductionHypothesis inRest with closed |
          ⟨earlier, before, spaces, tokens, remaining, blank⟩
        · exact .inl closed
        · right
          rw [tokens, ← List.cons_append]
          refine ⟨_, c :: (rest.take (leading c rest).tail ++ before),
            spaces, rfl, ?_, blank⟩
          rw [List.cons_append, List.append_assoc, ← remaining,
            List.take_append_drop]

/-! ## The end of a text -/

/-- The last literal of a text. -/
def lastLiteral? (source : String) : Option Token :=
  ((scan source).filter (·.kind = .literal)).getLast?

/-- Every quotation and every parenthesis of the last literal of a text is closed. -/
def ClosedAtEnd (source : String) : Prop :=
  ∀ token ∈ lastLiteral? source, Closed token.text.toList

/-- A literal at the end of a text is its last literal. -/
theorem lastLiteral?_of_body_eq_concat
    {source : String}
    (earlier : List Token)
    {token : Token}
    (tokens : body source = earlier ++ [token])
    (isLiteral : token.kind = .literal) :
    lastLiteral? source = some token := by
  simp [lastLiteral?, scan_eq, tokens, isLiteral, atEnd]

/-- Only its last literal can keep a text from being settled. -/
theorem ClosedAtEnd.settled
    {source : String}
    (closedAtEnd : ClosedAtEnd source) :
    Settled source.toList := by
  intro placed member isLiteral
  obtain ⟨token, inBody, rfl⟩ := List.mem_map.mp member
  rcases closed_or_last_of_mem_scanFrom inBody isLiteral with
    closed | ⟨earlier, _, _, tokens, _, _⟩
  · exact closed
  · exact closedAtEnd token (lastLiteral?_of_body_eq_concat earlier tokens isLiteral)

end WorkflowConditions.Token
