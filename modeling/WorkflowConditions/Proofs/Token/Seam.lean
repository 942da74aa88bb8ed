import WorkflowConditions.Proofs.Token.Scan

namespace WorkflowConditions.Token

open Text (Cell Quotation cells cellsFrom isSpace isQuotationMark Closed)

/-!
# Scanning two texts side by side

When every literal of a text is closed and what follows the text ends a literal,
the tokens of both together are the tokens of the one and then the tokens of the
other.  Parentheses and connectives put around such texts are therefore found
again by scanning.
-/

/--
A text behind which a literal at its own depth ends: the literal takes white
space of it at most, and no operator is completed by its first character.
-/
structure Seam (following : List Char) : Prop where
  unfused :
    ∀ c ∈ following.head?,
      c ≠ '=' ∧ c ≠ '&' ∧ c ≠ '|'
  taken :
    ∀ c ∈ following.take (literalLength 0 (cells following)),
      isSpace c = true

/-- A literal ends at a parenthesis that it did not open. -/
theorem seam_closing (rest : List Char) : Seam (')' :: rest) := by
  have shape : cells (')' :: rest) = .plain ')' :: cells rest :=
    Text.cells_cons_of_unmarked (by decide) rest
  constructor
  · simp
  · rw [shape, literalLength_closing_zero]
    simp

private theorem seam_space
    {rest : List Char}
    (ends : EndsLiteral (cells rest)) :
    Seam (' ' :: rest) := by
  have shape : cells (' ' :: rest) = .plain ' ' :: cells rest :=
    Text.cells_cons_of_unmarked (by decide) rest
  constructor
  · simp
  · have noOperator : startsOperator (cells (' ' :: rest)) = false :=
      startsOperator_eq_false rest (by decide) (by decide) (by decide)
    rw [shape] at noOperator
    rw [shape, literalLength_other (by decide) (by decide)
        (fun _ => noOperator),
      ends.literalLength_eq_zero]
    intro c member
    have isBlank : c = ' ' := by
      simpa using member
    rw [isBlank]
    decide

theorem seam_and (rest : List Char) : Seam (' ' :: '&' :: '&' :: rest) :=
  seam_space (.inr rfl)

theorem seam_or (rest : List Char) : Seam (' ' :: '|' :: '|' :: rest) :=
  seam_space (.inr rfl)

/-- However it is read, what follows a seam completes no operator. -/
theorem Seam.unfused_cellsFrom
    {following : List Char}
    (seam : Seam following)
    (quotation : Quotation) :
    Unfused (cellsFrom quotation following) := by
  cases following with
  | nil =>
      exact unfused_nil
  | cons next later =>
      intro cell first
      rw [cellsFrom, List.head?_cons, Option.mem_some_iff] at first
      subst cell
      exact seam.unfused next rfl

/-- A literal that reaches the end of its text. -/
def ReachesEnd (c : Char) (rest : List Char) : Prop :=
  c ≠ '(' ∧ literalLength 0 (cells (c :: rest)) = rest.length + 1

/-- A literal that reaches the end takes all of its text. -/
theorem ReachesEnd.leading_eq
    {c : Char}
    {rest : List Char}
    (reaches : ReachesEnd c rest) :
    leading c rest = ⟨.literal, rest.length⟩ ∧
      literalLength 0 (cellsFrom (Quotation.outside.next c) rest) =
        rest.length := by
  obtain ⟨notOpening, whole⟩ := reaches
  have taken : literalLength 0 (cells (c :: rest)) ≠ 0 := by
    rw [whole]
    exact Nat.succ_ne_zero _
  obtain ⟨isLiteral, length⟩ := leading_literal notOpening taken
  have tail :
      literalLength 0 (cellsFrom (Quotation.outside.next c) rest) =
        rest.length := by
    omega
  exact ⟨by rw [isLiteral, tail], tail⟩

/-- A literal that does not reach the end leaves something over. -/
theorem literalLength_lt_of_not_reachesEnd
    {c : Char}
    {rest : List Char}
    (notOpening : c ≠ '(')
    (ends : ¬ReachesEnd c rest) :
    literalLength 0 (cells (c :: rest)) < (cells (c :: rest)).length := by
  have bound := literalLength_le 0 (cells (c :: rest))
  have different :
      literalLength 0 (cells (c :: rest)) ≠ rest.length + 1 :=
    fun whole => ends ⟨notOpening, whole⟩
  rw [Text.length_cells, List.length_cons] at bound ⊢
  exact Nat.lt_of_le_of_ne bound different

/-- What follows a seam is not seen by a lexeme that ends before it. -/
theorem leading_append
    {c : Char}
    {rest following : List Char}
    (seam : Seam following)
    (ends : ¬ReachesEnd c rest) :
    leading c (rest ++ following) = leading c rest := by
  rcases leading_cases c rest with
    ⟨rfl, others, rfl⟩ | ⟨rfl, others, rfl⟩ | ⟨rfl, notEqual⟩ | rfl | rfl |
      ⟨notOpening, taken⟩
  · rw [List.cons_append, leading_and, leading_and]
  · rw [List.cons_append, leading_or, leading_or]
  · have notEqualStill : ∀ next ∈ (rest ++ following).head?, next ≠ '=' := by
      cases rest with
      | nil =>
          intro next first
          exact (seam.unfused next first).1
      | cons next later =>
          simpa using notEqual
    rw [leading_not notEqual, leading_not notEqualStill]
  · rw [leading_opening, leading_opening]
  · rw [leading_closing, leading_closing]
  · obtain ⟨isLiteral, length⟩ := leading_literal notOpening taken
    have unreached := literalLength_lt_of_not_reachesEnd notOpening ends
    have wholeSame :
        literalLength 0 (cells (c :: (rest ++ following))) =
          literalLength 0 (cells (c :: rest)) := by
      rw [← List.cons_append, Text.cells_append]
      exact literalLength_append_of_lt
        (seam.unfused_cellsFrom _) unreached
    obtain ⟨isLiteralStill, lengthStill⟩ :=
      leading_literal notOpening (wholeSame ▸ taken)
    rw [isLiteral, isLiteralStill]
    congr 1
    omega

/-- A closed literal that reaches the end of its text goes on to the seam. -/
theorem leading_append_of_reachesEnd
    {c : Char}
    {rest following : List Char}
    (seam : Seam following)
    (reaches : ReachesEnd c rest)
    (closed : Closed (c :: rest)) :
    leading c (rest ++ following) =
      ⟨.literal, rest.length + literalLength 0 (cells following)⟩ := by
  have whole :
      literalLength 0 (cells (c :: rest)) = (cells (c :: rest)).length := by
    simpa using reaches.2
  have appended :
      cells (c :: (rest ++ following)) =
        cells (c :: rest) ++ cells following := by
    rw [← List.cons_append, Text.cells_append, closed.quotations]
    rfl
  obtain ⟨inner, atDepth, continued⟩ :=
    literalLength_append_of_eq
      (seam.unfused_cellsFrom .outside) whole
  have innerZero : inner = 0 := by
    have balanced := closed.parentheses
    omega
  subst inner
  rw [← cells, ← appended] at continued
  have length : (cells (c :: rest)).length = rest.length + 1 := by
    simp
  have taken : literalLength 0 (cells (c :: (rest ++ following))) ≠ 0 := by
    omega
  obtain ⟨isLiteral, total⟩ := leading_literal reaches.1 taken
  rw [isLiteral]
  congr 1
  omega

/-- White space behind a closed text leaves it closed. -/
theorem closed_of_trimChars
    {c : Char}
    {rest : List Char}
    (visible : isSpace c = false)
    (closed : Closed (Text.trimChars (c :: rest))) :
    Closed (c :: rest) := by
  obtain ⟨spaces, whole, blank⟩ := Text.exists_trimBy_append rest visible
  rw [whole]
  exact closed.append_spaces blank

/-- At a seam a closed literal at the end of a text is complete. -/
private theorem scanFrom_append_of_reachesEnd
    (position : Nat)
    {c : Char}
    {rest following : List Char}
    (visible : isSpace c = false)
    (reaches : ReachesEnd c rest)
    (closed : Closed (c :: rest))
    (seam : Seam following) :
    scanFrom position (cells (c :: (rest ++ following))) =
      ⟨.literal, String.ofList (Text.trimChars (c :: rest)), position⟩ ::
        scanFrom (position + (rest.length + 1)) (cells following) := by
  have lead := leading_append_of_reachesEnd seam reaches closed
  have text :
      Text.trimChars
          (c :: (rest ++ following).take
            (rest.length + literalLength 0 (cells following))) =
        Text.trimChars (c :: rest) := by
    rw [List.take_length_add_append, ← List.cons_append]
    exact Text.trimBy_append_of_all seam.taken
  have skipped :
      scanFrom (position + (rest.length + 1)) (cells following) =
        scanFrom
          (position + 1 +
            (rest.length + literalLength 0 (cells following)))
          (cells (following.drop (literalLength 0 (cells following)))) := by
    have split :=
      scanFrom_spaces (position + (rest.length + 1))
        (following.drop (literalLength 0 (cells following))) seam.taken
    have bound : literalLength 0 (cells following) ≤ following.length := by
      simpa using literalLength_le 0 (cells following)
    rw [List.take_append_drop, List.length_take, Nat.min_eq_left bound]
      at split
    rw [split]
    congr 1
    omega
  rw [scanFrom_visible position _ visible, lead, text, skipped,
    List.drop_length_add_append]

/-- The tokens of two texts side by side. -/
theorem scanFrom_append
    (position : Nat)
    {text following : List Char}
    (closed :
      ∀ token ∈ scanFrom position (cells text),
        token.kind = .literal →
        Closed token.text.toList)
    (seam : Seam following) :
    scanFrom position (cells (text ++ following)) =
      scanFrom position (cells text) ++
        scanFrom (position + text.length) (cells following) := by
  induction text using scan_induction generalizing position with
  | nil =>
      simp
  | space c rest space inductionHypothesis =>
      rw [scanFrom_space position rest space] at closed ⊢
      rw [List.cons_append, scanFrom_space position _ space,
        inductionHypothesis (position + 1) closed, List.length_cons,
        Nat.add_assoc, Nat.add_comm 1]
  | token c rest visible inductionHypothesis =>
      rw [scanFrom_visible position rest visible] at closed ⊢
      rw [List.cons_append]
      -- Only a literal that reaches the end of its text can look beyond it.
      by_cases reaches : ReachesEnd c rest
      · rw [reaches.leading_eq.1] at closed ⊢
        rw [List.take_length] at closed ⊢
        have trimmedClosed :
            Closed (Text.trimChars (c :: rest)) := by
          simpa using closed _ List.mem_cons_self rfl
        rw [scanFrom_append_of_reachesEnd position visible reaches
          (closed_of_trimChars visible trimmedClosed) seam]
        simp
      · have bound := leading_tail_le c rest
        have restClosed :=
          fun token member => closed token (List.mem_cons_of_mem _ member)
        rw [scanFrom_visible position _ visible,
          leading_append seam reaches,
          List.take_append_of_le_length bound,
          List.drop_append_of_le_length bound,
          inductionHypothesis _ restClosed, List.cons_append,
          List.length_drop, List.length_cons]
        congr 3
        omega

/-! ## Tokens without their places -/

/-- A token moved to the beginning of its text. -/
def bare (token : Token) : Token :=
  { token with position := 0 }

/-- The tokens of a text, whatever their places. -/
def bareTokens (text : List Char) : List Token :=
  (scanFrom 0 (cells text)).map bare

/-- Where a text stands does not change its tokens otherwise. -/
theorem map_bare_scanFrom
    (position : Nat)
    (text : List Char) :
    (scanFrom position (cells text)).map bare = bareTokens text := by
  -- Both positions move along the scan, so neither can be fixed at zero.
  have anywhere :
      ∀ first second,
        (scanFrom first (cells text)).map bare =
          (scanFrom second (cells text)).map bare := by
    induction text using scan_induction with
    | nil =>
        simp
    | space c rest space inductionHypothesis =>
        intro first second
        rw [scanFrom_space first rest space, scanFrom_space second rest space]
        exact inductionHypothesis (first + 1) (second + 1)
    | token c rest visible inductionHypothesis =>
        intro first second
        rw [scanFrom_visible first rest visible,
          scanFrom_visible second rest visible, List.map_cons, List.map_cons,
          inductionHypothesis (first + 1 + (leading c rest).tail)
            (second + 1 + (leading c rest).tail)]
        rfl
  exact anywhere position 0

@[simp] theorem bareTokens_nil : bareTokens [] = [] := by
  rw [bareTokens, scanFrom_nil, List.map_nil]

/-- White space is no token. -/
theorem bareTokens_space
    {c : Char}
    (rest : List Char)
    (space : isSpace c = true) :
    bareTokens (c :: rest) = bareTokens rest := by
  rw [bareTokens, scanFrom_space 0 rest space, map_bare_scanFrom]

/-- A visible character begins a token. -/
theorem bareTokens_visible
    {c : Char}
    (rest : List Char)
    (visible : isSpace c = false) :
    bareTokens (c :: rest) =
      ⟨(leading c rest).kind,
        String.ofList
          (Text.trimChars (c :: rest.take (leading c rest).tail)), 0⟩ ::
        bareTokens (rest.drop (leading c rest).tail) := by
  rw [bareTokens, scanFrom_visible 0 rest visible, List.map_cons,
    map_bare_scanFrom]
  rfl

theorem bareTokens_opening (rest : List Char) :
    bareTokens ('(' :: rest) =
      ⟨.leftParen, "(", 0⟩ :: bareTokens rest := by
  rw [bareTokens_visible rest (by decide), leading_opening]
  rfl

theorem bareTokens_closing (rest : List Char) :
    bareTokens (')' :: rest) =
      ⟨.rightParen, ")", 0⟩ :: bareTokens rest := by
  rw [bareTokens_visible rest (by decide), leading_closing]
  rfl

theorem bareTokens_and (rest : List Char) :
    bareTokens ('&' :: '&' :: rest) =
      ⟨.and, "&&", 0⟩ :: bareTokens rest := by
  rw [bareTokens_visible _ (by decide), leading_and]
  rfl

theorem bareTokens_or (rest : List Char) :
    bareTokens ('|' :: '|' :: rest) =
      ⟨.or, "||", 0⟩ :: bareTokens rest := by
  rw [bareTokens_visible _ (by decide), leading_or]
  rfl

theorem bareTokens_not
    {rest : List Char}
    (notEqual : ∀ next ∈ rest.head?, next ≠ '=') :
    bareTokens ('!' :: rest) =
      ⟨.not, "!", 0⟩ :: bareTokens rest := by
  rw [bareTokens_visible rest (by decide), leading_not notEqual]
  rfl

/-- A text is settled when every literal in it is closed. -/
def Settled (text : List Char) : Prop :=
  ∀ token ∈ bareTokens text,
    token.kind = .literal →
    Closed token.text.toList

/-- The tokens of a settled text stay the same before a seam. -/
theorem Settled.bareTokens_append
    {text following : List Char}
    (settled : Settled text)
    (seam : Seam following) :
    bareTokens (text ++ following) =
      bareTokens text ++ bareTokens following := by
  have closed :
      ∀ token ∈ scanFrom 0 (cells text),
        token.kind = .literal →
        Closed token.text.toList :=
    fun token member => settled token.bare (List.mem_map_of_mem member)
  rw [bareTokens, scanFrom_append 0 closed seam, List.map_append,
    map_bare_scanFrom, map_bare_scanFrom]

/-- A settled text in parentheses is its tokens in parentheses. -/
theorem Settled.bareTokens_group
    {text : List Char}
    (settled : Settled text)
    (rest : List Char) :
    bareTokens ('(' :: (text ++ ')' :: rest)) =
      ⟨.leftParen, "(", 0⟩ ::
        (bareTokens text ++ ⟨.rightParen, ")", 0⟩ :: bareTokens rest) := by
  rw [bareTokens_opening, settled.bareTokens_append (seam_closing rest),
    bareTokens_closing]

/-- A settled text keeps its tokens in parentheses. -/
theorem Settled.bareTokens_group_end
    {text : List Char}
    (settled : Settled text) :
    bareTokens ('(' :: (text ++ [')'])) =
      ⟨.leftParen, "(", 0⟩ ::
        (bareTokens text ++ [⟨.rightParen, ")", 0⟩]) := by
  rw [settled.bareTokens_group [], bareTokens_nil]

theorem bareTokens_spaced_and (rest : List Char) :
    bareTokens (' ' :: '&' :: '&' :: ' ' :: rest) =
      ⟨.and, "&&", 0⟩ :: bareTokens rest := by
  rw [bareTokens_space _ (by decide), bareTokens_and,
    bareTokens_space _ (by decide)]

theorem bareTokens_spaced_or
    {c : Char}
    (space : isSpace c = true)
    (rest : List Char) :
    bareTokens (' ' :: '|' :: '|' :: c :: rest) =
      ⟨.or, "||", 0⟩ :: bareTokens rest := by
  rw [bareTokens_space _ (by decide), bareTokens_or, bareTokens_space _ space]

/-- Two settled texts in parentheses keep their tokens beside a connective. -/
theorem Settled.bareTokens_pair
    {left right : List Char}
    {symbol : Char}
    {connective : Token}
    (leftSettled : Settled left)
    (rightSettled : Settled right)
    (joins :
      ∀ rest,
        bareTokens (' ' :: symbol :: symbol :: ' ' :: rest) =
          connective :: bareTokens rest) :
    bareTokens
        ('(' :: (left ++
          ')' :: ' ' :: symbol :: symbol :: ' ' :: '(' :: (right ++ [')']))) =
      (⟨.leftParen, "(", 0⟩ :: (bareTokens left ++ [⟨.rightParen, ")", 0⟩])) ++
        connective ::
          (⟨.leftParen, "(", 0⟩ ::
            (bareTokens right ++ [⟨.rightParen, ")", 0⟩])) := by
  rw [leftSettled.bareTokens_group, joins, rightSettled.bareTokens_group_end]
  simp

end WorkflowConditions.Token
