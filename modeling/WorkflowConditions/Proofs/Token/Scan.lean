import WorkflowConditions.Proofs.Text.Space
import WorkflowConditions.Proofs.Token.Literal

namespace WorkflowConditions.Token

open Text (Cell Quotation cells cellsFrom isSpace isQuotationMark Closed)

/-!
# Scanning a text token by token

Scanning works on cells.  Between two tokens the reader of quotations is always
outside, so scanning can be followed on the text itself: white space is skipped,
and any other character begins a token after which scanning starts afresh.  No run
of cells is without text, so scanning never fails and reaches the end of the text.
-/

/-! ## Runs by their first cell -/

/-- The kind of a token and the number of cells after its first one. -/
structure Lexeme where
  kind : Kind
  tail : Nat
  deriving Repr, DecidableEq

/-- The lexeme that begins with `cell`, which is no white space. -/
def lexeme
    (cell : Cell)
    (rest : List Cell) :
    Lexeme :=
  match connective? (cell :: rest) with
  | some kind => ⟨kind, 1⟩
  | none =>
      if startsNegation (cell :: rest) then ⟨.not, 0⟩
      else if cell = .plain '(' then ⟨.leftParen, 0⟩
      else if cell = .plain ')' then ⟨.rightParen, 0⟩
      else ⟨.literal, literalLength 0 rest⟩

/-- A run always has its first cell, also the run of a literal. -/
theorem run_eq
    (cell : Cell)
    (rest : List Cell) :
    run cell rest = ⟨(lexeme cell rest).kind, (lexeme cell rest).tail + 1⟩ := by
  unfold run lexeme
  cases connective : connective? (cell :: rest) with
  | some kind =>
      rfl
  | none =>
      cases negation : startsNegation (cell :: rest) with
      | true =>
          rfl
      | false =>
          by_cases opening : cell = .plain '('
          · simp [opening]
          · by_cases closing : cell = .plain ')'
            · simp only [Bool.false_eq_true, if_false, if_neg opening, if_pos closing]
            · have noOperator : startsOperator (cell :: rest) = false := by
                rw [startsOperator, connective, negation]
                rfl
              simp [opening, closing, literalLength_other opening closing fun _ => noOperator,
                Nat.add_comm]

/-- The lexeme with which a text begins that starts with the visible character `c`. -/
def leading (c : Char) (rest : List Char) : Lexeme :=
  lexeme ⟨c, isQuotationMark c⟩ (cellsFrom (Quotation.outside.next c) rest)

/-- A text is read from outside every quotation. -/
theorem cells_cons
    (c : Char)
    (rest : List Char) :
    cells (c :: rest) =
      ⟨c, isQuotationMark c⟩ :: cellsFrom (Quotation.outside.next c) rest :=
  rfl

theorem eq_of_first_eq_plain
    {c expected : Char}
    (plain : (⟨c, isQuotationMark c⟩ : Cell) = .plain expected) :
    c = expected ∧ isQuotationMark c = false :=
  ⟨congrArg Cell.char plain, congrArg Cell.quoted plain⟩

/-- Only three characters can begin an operator. -/
theorem startsOperator_eq_false
    {c : Char}
    (rest : List Char)
    (notAnd : c ≠ '&')
    (notOr : c ≠ '|')
    (notNegation : c ≠ '!') :
    startsOperator (cells (c :: rest)) = false := by
  cases operator : startsOperator (cells (c :: rest)) with
  | false =>
      rfl
  | true =>
      obtain ⟨expected, plain, which⟩ :=
        exists_plain_of_startsOperator operator
      rw [← (eq_of_first_eq_plain plain).1] at which
      rcases which with isAnd | isOr | isNegation
      · exact (notAnd isAnd).elim
      · exact (notOr isOr).elim
      · exact (notNegation isNegation).elim

/-! ## The lexeme at the beginning of a text -/

/-- Without an operator in front there is a parenthesis or a literal. -/
private theorem leading_of_noOperator
    {c : Char}
    {rest : List Char}
    (noOperator : startsOperator (cells (c :: rest)) = false) :
    leading c rest =
      if (⟨c, isQuotationMark c⟩ : Cell) = .plain '(' then ⟨.leftParen, 0⟩
      else if (⟨c, isQuotationMark c⟩ : Cell) = .plain ')' then
        ⟨.rightParen, 0⟩
      else
        ⟨.literal,
          literalLength 0 (cellsFrom (Quotation.outside.next c) rest)⟩ := by
  rw [cells_cons] at noOperator
  simp only [startsOperator, Bool.or_eq_false_iff,
    Option.isSome_eq_false_iff, Option.isNone_iff_eq_none] at noOperator
  simp [leading, lexeme, noOperator.1, noOperator.2]

theorem leading_opening (rest : List Char) :
    leading '(' rest = ⟨.leftParen, 0⟩ := by
  have noOperator :=
    startsOperator_eq_false rest (c := '(')
      (by decide) (by decide) (by decide)
  rw [leading_of_noOperator noOperator, if_pos (by decide)]

theorem leading_closing (rest : List Char) :
    leading ')' rest = ⟨.rightParen, 0⟩ := by
  have noOperator :=
    startsOperator_eq_false rest (c := ')')
      (by decide) (by decide) (by decide)
  rw [leading_of_noOperator noOperator, if_neg (by decide),
    if_pos (by decide)]

theorem leading_and (rest : List Char) :
    leading '&' ('&' :: rest) = ⟨.and, 1⟩ :=
  rfl

theorem leading_or (rest : List Char) :
    leading '|' ('|' :: rest) = ⟨.or, 1⟩ :=
  rfl

/-- An exclamation mark negates unless `=` follows it. -/
theorem leading_not
    {rest : List Char}
    (notEqual : ∀ next ∈ rest.head?, next ≠ '=') :
    leading '!' rest = ⟨.not, 0⟩ := by
  cases rest with
  | nil =>
      rfl
  | cons next later =>
      have nextNotEqual := notEqual next (by simp)
      have noConnective : connective? (cells ('!' :: next :: later)) = none :=
        rfl
      have negation : startsNegation (cells ('!' :: next :: later)) = true := by
        rw [cells_cons, cellsFrom, startsNegation, Bool.and_eq_true]
        exact ⟨rfl, bne_iff_ne.mpr nextNotEqual⟩
      rw [cells_cons] at noConnective negation
      simp only [leading, lexeme, noConnective, negation, if_true]

/-- A visible character that a literal takes begins a literal. -/
theorem leading_literal
    {c : Char}
    {rest : List Char}
    (notOpening : c ≠ '(')
    (taken : literalLength 0 (cells (c :: rest)) ≠ 0) :
    leading c rest =
        ⟨.literal,
          literalLength 0 (cellsFrom (Quotation.outside.next c) rest)⟩ ∧
      literalLength 0 (cells (c :: rest)) =
        1 + literalLength 0 (cellsFrom (Quotation.outside.next c) rest) := by
  rw [cells_cons] at taken
  rcases literal_step_cases 0 ⟨c, isQuotationMark c⟩
      (cellsFrom (Quotation.outside.next c) rest) with
    opening | ⟨_, outer, impossible⟩ | ⟨_, ends⟩ |
      ⟨firstNotOpening, firstNotClosing, noOperator⟩
  · exact (notOpening (eq_of_first_eq_plain opening).1).elim
  · cases impossible
  · exact (taken ends.literalLength_eq_zero).elim
  · constructor
    · rw [leading_of_noOperator (noOperator rfl), if_neg firstNotOpening,
        if_neg firstNotClosing]
    · exact literalLength_other firstNotOpening firstNotClosing noOperator

/-- A connective is one of its characters twice. -/
private theorem shape_of_connective?
    {c : Char}
    {rest : List Char}
    {kind : Kind}
    (found : connective? (cells (c :: rest)) = some kind) :
    (c = '&' ∧ ∃ others, rest = '&' :: others) ∨
      (c = '|' ∧ ∃ others, rest = '|' :: others) := by
  cases rest with
  | nil =>
      simp [cells, cellsFrom, connective?] at found
  | cons second others =>
      rw [cells_cons, cellsFrom, connective?] at found
      split at found
      case isTrue both =>
        have secondChar : second = '&' := congrArg Cell.char both.2
        exact .inl ⟨(eq_of_first_eq_plain both.1).1, others, by
          rw [secondChar]⟩
      case isFalse =>
        split at found
        case isTrue both =>
          have secondChar : second = '|' := congrArg Cell.char both.2
          exact .inr ⟨(eq_of_first_eq_plain both.1).1, others, by
            rw [secondChar]⟩
        case isFalse =>
          simp at found

/-- A negation is an exclamation mark before no equals sign. -/
private theorem shape_of_startsNegation
    {c : Char}
    {rest : List Char}
    (found : startsNegation (cells (c :: rest)) = true) :
    c = '!' ∧ ∀ next ∈ rest.head?, next ≠ '=' := by
  cases rest with
  | nil =>
      have plain : (⟨c, isQuotationMark c⟩ : Cell) = .plain '!' := by
        simpa [cells, cellsFrom, Quotation.covers, startsNegation] using found
      exact ⟨(eq_of_first_eq_plain plain).1, by simp⟩
  | cons second others =>
      have both :
          (⟨c, isQuotationMark c⟩ : Cell) = .plain '!' ∧ second ≠ '=' := by
        simpa [cells, cellsFrom, Quotation.covers, startsNegation] using found
      exact ⟨(eq_of_first_eq_plain both.1).1, by simpa using both.2⟩

/-- Everything that a text with a visible first character can begin with. -/
theorem leading_cases
    (c : Char)
    (rest : List Char) :
    (c = '&' ∧ ∃ others, rest = '&' :: others) ∨
      (c = '|' ∧ ∃ others, rest = '|' :: others) ∨
      (c = '!' ∧ ∀ next ∈ rest.head?, next ≠ '=') ∨
      c = '(' ∨
      c = ')' ∨
      (c ≠ '(' ∧ literalLength 0 (cells (c :: rest)) ≠ 0) := by
  by_cases opening : c = '('
  · exact .inr (.inr (.inr (.inl opening)))
  · by_cases taken : literalLength 0 (cells (c :: rest)) = 0
    · rw [cells_cons] at taken
      rcases literal_step_cases 0 ⟨c, isQuotationMark c⟩
          (cellsFrom (Quotation.outside.next c) rest) with
        firstOpening | ⟨_, outer, impossible⟩ | ⟨_, closing | operator⟩ |
          ⟨notOpening, notClosing, noOperator⟩
      · exact (opening (eq_of_first_eq_plain firstOpening).1).elim
      · cases impossible
      · exact .inr (.inr (.inr (.inr (.inl (eq_of_first_eq_plain closing).1))))
      · rw [startsOperator, Bool.or_eq_true] at operator
        rcases operator with connective | negation
        · obtain ⟨kind, found⟩ := Option.isSome_iff_exists.mp connective
          rcases shape_of_connective? found with isAnd | isOr
          · exact .inl isAnd
          · exact .inr (.inl isOr)
        · exact .inr (.inr (.inl (shape_of_startsNegation negation)))
      · rw [literalLength_other notOpening notClosing noOperator] at taken
        omega
    · exact .inr (.inr (.inr (.inr (.inr ⟨opening, taken⟩))))

/-- A literal that ends before its text does ends outside every quotation. -/
theorem literal_leaves_outside
    {quotation : Quotation}
    {text : List Char}
    (ended : literalLength 0 (cellsFrom quotation text) < text.length) :
    quotation.after
        (text.take (literalLength 0 (cellsFrom quotation text))) =
      .outside := by
  rw [← Text.length_cellsFrom quotation text] at ended
  obtain ⟨_, ends⟩ := literal_ends ended
  rw [Text.drop_cellsFrom] at ends
  cases remaining :
      text.drop (literalLength 0 (cellsFrom quotation text)) with
  | nil =>
      have nothing := congrArg List.length remaining
      rw [List.length_drop, List.length_nil] at nothing
      rw [Text.length_cellsFrom] at ended
      omega
  | cons next later =>
      rw [remaining, cellsFrom] at ends
      rcases ends with closing | operator
      · exact Quotation.eq_outside_of_covers (congrArg Cell.quoted closing)
      · obtain ⟨expected, shape, _⟩ := exists_plain_of_startsOperator operator
        exact Quotation.eq_outside_of_covers (congrArg Cell.quoted shape)

/-- After the first lexeme of a text the reader is outside every quotation. -/
theorem drop_leading
    (c : Char)
    (rest : List Char) :
    (cellsFrom (Quotation.outside.next c) rest).drop (leading c rest).tail =
      cells (rest.drop (leading c rest).tail) := by
  rcases leading_cases c rest with
    ⟨rfl, others, rfl⟩ | ⟨rfl, others, rfl⟩ | ⟨rfl, notEqual⟩ | rfl | rfl |
      ⟨notOpening, taken⟩
  · rfl
  · rfl
  · rw [leading_not notEqual]
    rfl
  · rw [leading_opening]
    rfl
  · rw [leading_closing]
    rfl
  · obtain ⟨isLiteral, _⟩ := leading_literal notOpening taken
    rw [isLiteral, Text.drop_cellsFrom]
    by_cases ended :
        literalLength 0 (cellsFrom (Quotation.outside.next c) rest) <
          rest.length
    · rw [literal_leaves_outside ended]
      rfl
    · rw [List.drop_eq_nil_of_le (Nat.not_lt.mp ended)]
      rfl

/-- A lexeme takes no more than the text. -/
theorem leading_tail_le
    (c : Char)
    (rest : List Char) :
    (leading c rest).tail ≤ rest.length := by
  rcases leading_cases c rest with
    ⟨rfl, others, rfl⟩ | ⟨rfl, others, rfl⟩ | ⟨rfl, notEqual⟩ | rfl | rfl |
      ⟨notOpening, taken⟩
  · rw [leading_and]
    simp
  · rw [leading_or]
    simp
  · rw [leading_not notEqual]
    simp
  · rw [leading_opening]
    simp
  · rw [leading_closing]
    simp
  · obtain ⟨isLiteral, _⟩ := leading_literal notOpening taken
    rw [isLiteral]
    simpa using
      literalLength_le 0 (cellsFrom (Quotation.outside.next c) rest)

/-- Follow a scan: over white space, then from token to token. -/
@[elab_as_elim]
theorem scan_induction
    {motive : List Char → Prop}
    (nil : motive [])
    (space :
      ∀ c rest, isSpace c = true → motive rest → motive (c :: rest))
    (token :
      ∀ c rest,
        isSpace c = false →
        motive (rest.drop (leading c rest).tail) →
        motive (c :: rest))
    (text : List Char) :
    motive text := by
  induction shape : text.length using Nat.strongRecOn generalizing text with
  | ind length inductionHypothesis =>
      subst shape
      cases text with
      | nil =>
          exact nil
      | cons c rest =>
          cases blank : isSpace c with
          | true =>
              exact space c rest blank
                (inductionHypothesis rest.length (by simp) rest rfl)
          | false =>
              have shorter :
                  (rest.drop (leading c rest).tail).length <
                    (c :: rest).length := by
                rw [List.length_drop, List.length_cons]
                omega
              exact token c rest blank
                (inductionHypothesis _ shorter _ rfl)

/-! ## Scanning step by step -/

theorem readFrom_nil (position : Nat) :
    readFrom position (cells []) = .ok ([], position) := by
  unfold readFrom
  rfl

/-- White space is skipped. -/
theorem readFrom_space
    (position : Nat)
    {c : Char}
    (rest : List Char)
    (space : isSpace c = true) :
    readFrom position (cells (c :: rest)) = readFrom (position + 1) (cells rest) := by
  rw [Text.cells_cons_of_unmarked (Text.isQuotationMark_of_isSpace space),
    readFrom.eq_def]
  simp only [Cell.isSpace, Cell.plain, space, if_true]

/-- A visible character begins a token with a text, after which reading starts afresh. -/
theorem readFrom_visible
    (position : Nat)
    {c : Char}
    (rest : List Char)
    (visible : isSpace c = false) :
    readFrom position (cells (c :: rest)) =
      (readFrom (position + 1 + (leading c rest).tail)
          (cells (rest.drop (leading c rest).tail))).map fun (tokens, reached) =>
        (⟨(leading c rest).kind,
          String.ofList (Text.trimChars (c :: rest.take (leading c rest).tail)),
          position⟩ :: tokens, reached) := by
  have found : run ⟨c, isQuotationMark c⟩ (cellsFrom (Quotation.outside.next c) rest) =
      ⟨(leading c rest).kind, (leading c rest).tail + 1⟩ :=
    run_eq _ _
  have chars :
      Cell.chars
          (⟨c, isQuotationMark c⟩ ::
            cellsFrom (Quotation.outside.next c)
              (rest.take (leading c rest).tail)) =
        c :: rest.take (leading c rest).tail :=
    Text.chars_cellsFrom .outside (c :: rest.take (leading c rest).tail)
  have nonempty : Text.trimChars (c :: rest.take (leading c rest).tail) ≠ [] := by
    obtain ⟨kept, trimmed⟩ :=
      Text.exists_trimBy_eq_cons (rest.take (leading c rest).tail) visible
    rw [Text.trimChars, trimmed]
    exact List.cons_ne_nil c kept
  rw [cells_cons, readFrom.eq_def]
  simp only [Cell.isSpace, visible, Bool.false_eq_true, if_false, found, List.take_succ_cons,
    List.drop_succ_cons, Text.take_cellsFrom, chars, nonempty, dite_false, drop_leading]
  rw [Nat.add_assoc, Nat.add_comm 1]
  cases readFrom _ _ <;>
    rfl

/-- Reading never fails, and it reaches the end of the text. -/
theorem readFrom_eq
    (position : Nat)
    (text : List Char) :
    readFrom position (cells text) =
      .ok (scanFrom position (cells text), position + text.length) := by
  have reaches :
      ∃ tokens, readFrom position (cells text) = .ok (tokens, position + text.length) := by
    induction text using scan_induction generalizing position with
    | nil =>
        exact ⟨[], readFrom_nil position⟩
    | space c rest space inductionHypothesis =>
        obtain ⟨tokens, read⟩ := inductionHypothesis (position + 1)
        refine ⟨tokens, ?_⟩
        rw [readFrom_space position rest space, read, List.length_cons, Nat.add_assoc,
          Nat.add_comm 1]
    | token c rest visible inductionHypothesis =>
        obtain ⟨tokens, read⟩ := inductionHypothesis (position + 1 + (leading c rest).tail)
        have reached :
            position + 1 + (leading c rest).tail +
                (rest.drop (leading c rest).tail).length =
              position + (c :: rest).length := by
          have bound := leading_tail_le c rest
          rw [List.length_drop, List.length_cons]
          omega
        rw [readFrom_visible position rest visible, read, reached]
        exact ⟨_, rfl⟩
  obtain ⟨tokens, read⟩ := reaches
  rw [scanFrom, read]

@[simp] theorem scanFrom_nil (position : Nat) :
    scanFrom position (cells []) = [] := by
  rw [scanFrom, readFrom_nil]

theorem scanFrom_space
    (position : Nat)
    {c : Char}
    (rest : List Char)
    (space : isSpace c = true) :
    scanFrom position (cells (c :: rest)) =
      scanFrom (position + 1) (cells rest) := by
  rw [scanFrom, readFrom_space position rest space, scanFrom]

/-- A visible character begins a token, after which scanning starts afresh. -/
theorem scanFrom_visible
    (position : Nat)
    {c : Char}
    (rest : List Char)
    (visible : isSpace c = false) :
    scanFrom position (cells (c :: rest)) =
      ⟨(leading c rest).kind,
        String.ofList
          (Text.trimChars (c :: rest.take (leading c rest).tail)),
        position⟩ ::
        scanFrom (position + 1 + (leading c rest).tail)
          (cells (rest.drop (leading c rest).tail)) := by
  rw [scanFrom, readFrom_visible position rest visible, readFrom_eq]
  rfl

/-- White space in front of a text moves its tokens. -/
theorem scanFrom_spaces
    (position : Nat)
    {spaces : List Char}
    (rest : List Char)
    (blank : ∀ c ∈ spaces, isSpace c = true) :
    scanFrom position (cells (spaces ++ rest)) =
      scanFrom (position + spaces.length) (cells rest) := by
  induction spaces generalizing position with
  | nil =>
      rfl
  | cons c later inductionHypothesis =>
      rw [List.cons_append, scanFrom_space position _ (blank c (by simp)),
        inductionHypothesis (position + 1)
          (fun item member => blank item (by simp [member])),
        List.length_cons, Nat.add_assoc, Nat.add_comm 1]

/-- A blank text has no tokens. -/
theorem body_of_isBlankText
    {source : String}
    (blank : Text.isBlankText source = true) :
    body source = [] := by
  have skipped :=
    scanFrom_spaces 0 [] (List.all_eq_true.mp blank)
  rw [List.append_nil, scanFrom_nil] at skipped
  exact skipped

/-- No condition is refused; its end token stands at its length. -/
theorem scanChecked_eq (source : String) :
    scanChecked source = .ok (body source ++ [atEnd source.length]) := by
  rw [scanChecked, readFrom_eq, Nat.zero_add, String.length_toList]
  rfl

theorem scan_eq (source : String) :
    scan source = body source ++ [atEnd source.length] := by
  rw [scan, scanChecked_eq]

end WorkflowConditions.Token
