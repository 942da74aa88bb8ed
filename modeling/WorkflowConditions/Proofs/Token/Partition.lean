import WorkflowConditions.Proofs.Token.LiteralText

namespace WorkflowConditions.Token

open Text (Cell cells isSpace)

/-!
# Tokens partition a text

Scanning lays its tokens over a text from left to right.  They do not overlap,
each of them is the part of the text that it covers, and nothing but white space
lies between them.  A literal is never empty and holds no operator at its own
depth, so it always goes on to something that can follow an operand.
-/

/-! ## Tokens laid over a text -/

/--
Tokens laid over a text that stands at a position.  Every token covers its own
text, and what no token covers is white space.
-/
inductive Laid : Nat → List Char → List Token → Prop where
  | nil
      (position : Nat) :
      Laid position [] []
  | space
      {position : Nat}
      {c : Char}
      {rest : List Char}
      {tokens : List Token}
      (blank : isSpace c = true)
      (later : Laid (position + 1) rest tokens) :
      Laid position (c :: rest) tokens
  | token
      {position : Nat}
      {kind : Kind}
      {word rest : List Char}
      {tokens : List Token}
      (nonempty : word ≠ [])
      (later : Laid (position + word.length) rest tokens) :
      Laid position (word ++ rest)
        (⟨kind, String.ofList word, position⟩ :: tokens)

namespace Laid

/-- White space before the tokens is covered by none of them. -/
theorem spaces_append
    {position : Nat}
    {spaces rest : List Char}
    {tokens : List Token}
    (blank : ∀ c ∈ spaces, isSpace c = true)
    (laid : Laid (position + spaces.length) rest tokens) :
    Laid position (spaces ++ rest) tokens := by
  induction spaces generalizing position with
  | nil =>
      exact laid
  | cons c others inductionHypothesis =>
      rw [List.length_cons, Nat.add_comm others.length, ← Nat.add_assoc] at laid
      exact .space (blank c (by simp))
        (inductionHypothesis (fun item member => blank item (by simp [member])) laid)

/-- A token covers at least one character. -/
theorem ne_empty
    {position : Nat}
    {text : List Char}
    {tokens : List Token}
    (laid : Laid position text tokens) :
    ∀ token ∈ tokens, token.text ≠ "" := by
  induction laid with
  | nil =>
      simp
  | space _ _ inductionHypothesis =>
      exact inductionHypothesis
  | token nonempty _ inductionHypothesis =>
      exact List.forall_mem_cons.mpr ⟨by simpa using nonempty, inductionHypothesis⟩

/-- No token begins before the text. -/
theorem position_le
    {position : Nat}
    {text : List Char}
    {tokens : List Token}
    (laid : Laid position text tokens) :
    ∀ token ∈ tokens, position ≤ token.position := by
  induction laid with
  | nil =>
      simp
  | space _ _ inductionHypothesis =>
      intro token member
      exact Nat.le_of_succ_le (inductionHypothesis token member)
  | token _ _ inductionHypothesis =>
      intro token member
      rcases List.mem_cons.mp member with rfl | inRest
      · exact Nat.le_refl _
      · exact Nat.le_trans (Nat.le_add_right _ _)
          (inductionHypothesis token inRest)

/-- A token begins only where the tokens before it have ended. -/
theorem pairwise
    {position : Nat}
    {text : List Char}
    {tokens : List Token}
    (laid : Laid position text tokens) :
    tokens.Pairwise fun earlier later =>
      earlier.position + earlier.text.length ≤ later.position := by
  induction laid with
  | nil =>
      exact .nil
  | space _ _ inductionHypothesis =>
      exact inductionHypothesis
  | token _ later inductionHypothesis =>
      refine .cons ?_ inductionHypothesis
      simpa using later.position_le

/-- A token is the part of the text that it covers. -/
theorem exists_split
    {position : Nat}
    {text : List Char}
    {tokens : List Token}
    (laid : Laid position text tokens) :
    ∀ token ∈ tokens,
      ∃ before after,
        text = before ++ (token.text.toList ++ after) ∧
          token.position = position + before.length := by
  induction laid with
  | nil =>
      simp
  | @space position c _ _ _ _ inductionHypothesis =>
      intro token member
      obtain ⟨before, after, rfl, placed⟩ := inductionHypothesis token member
      refine ⟨c :: before, after, rfl, ?_⟩
      rw [placed, List.length_cons, Nat.add_assoc, Nat.add_comm 1]
  | @token position _ word rest _ _ _ inductionHypothesis =>
      intro token member
      rcases List.mem_cons.mp member with rfl | inRest
      · exact ⟨[], rest, by simp, rfl⟩
      · obtain ⟨before, after, rfl, placed⟩ := inductionHypothesis token inRest
        refine ⟨word ++ before, after, by simp, ?_⟩
        rw [placed, List.length_append, Nat.add_assoc]

/-- A character that no token covers is white space. -/
theorem covered_or_space
    {position index : Nat}
    {text : List Char}
    {tokens : List Token}
    {c : Char}
    (laid : Laid position text tokens)
    (found : text[index]? = some c) :
    (∃ token ∈ tokens,
        token.position ≤ position + index ∧
          position + index < token.position + token.text.length) ∨
      isSpace c = true := by
  induction laid generalizing index with
  | nil =>
      simp at found
  | space blank _ inductionHypothesis =>
      cases index with
      | zero =>
          obtain rfl := Option.some.inj found
          exact .inr blank
      | succ index =>
          rw [Nat.add_comm index, ← Nat.add_assoc]
          exact inductionHypothesis found
  | @token position kind word rest _ _ _ inductionHypothesis =>
      by_cases inWord : index < word.length
      · left
        refine ⟨_, List.mem_cons_self, Nat.le_add_right position index, ?_⟩
        simpa using inWord
      · obtain ⟨further, rfl⟩ := Nat.exists_eq_add_of_le (Nat.not_lt.mp inWord)
        rw [List.getElem?_append_right (Nat.le_add_right _ _),
          Nat.add_sub_cancel_left] at found
        rw [← Nat.add_assoc]
        rcases inductionHypothesis found with ⟨token, member, covers⟩ | blank
        · exact .inl ⟨token, List.mem_cons_of_mem _ member, covers⟩
        · exact .inr blank

end Laid

/-- Scanning lays its tokens over the text. -/
theorem laid_scanFrom
    (position : Nat)
    (text : List Char) :
    Laid position text (scanFrom position (cells text)) := by
  induction text using scan_induction generalizing position with
  | nil =>
      rw [scanFrom_nil]
      exact .nil position
  | space c rest space inductionHypothesis =>
      rw [scanFrom_space position rest space]
      exact .space space (inductionHypothesis (position + 1))
  | token c rest visible inductionHypothesis =>
      rw [scanFrom_visible position rest visible]
      generalize reach : (leading c rest).tail = count at inductionHypothesis ⊢
      have bound : count ≤ rest.length := reach ▸ leading_tail_le c rest
      -- The white space that was trimmed off a token lies between it and the next one.
      obtain ⟨spaces, whole, blank⟩ :=
        Text.exists_trimBy_append (rest.take count) visible
      obtain ⟨kept, trimmed⟩ :=
        Text.exists_trimBy_eq_cons (rest.take count) visible
      rw [trimmed] at whole
      rw [Text.trimChars, trimmed]
      have split : c :: rest = (c :: kept) ++ (spaces ++ rest.drop count) := by
        rw [← List.append_assoc, ← whole, List.cons_append, List.take_append_drop]
      have reached :
          position + 1 + count = position + (c :: kept).length + spaces.length := by
        have lengths := congrArg List.length whole
        rw [List.length_cons, List.length_take, Nat.min_eq_left bound,
          List.length_append] at lengths
        omega
      rw [split, reached]
      exact .token (List.cons_ne_nil c kept)
        (.spaces_append blank (inductionHypothesis _))

/-! ## The texts of literals -/

/--
Cells that begin with an operator outside every quotation: `&&`, `||`, or `!`
without `=` behind it.
-/
inductive OperatorFirst : List Cell → Prop where
  | and
      (rest : List Cell) :
      OperatorFirst (.plain '&' :: .plain '&' :: rest)
  | or
      (rest : List Cell) :
      OperatorFirst (.plain '|' :: .plain '|' :: rest)
  | not
      {rest : List Cell}
      (notEqual : ∀ next ∈ rest.head?, next.char ≠ '=') :
      OperatorFirst (.plain '!' :: rest)

/-- The operators that are listed are those that scanning knows. -/
theorem OperatorFirst.startsOperator_eq
    {found : List Cell}
    (operator : OperatorFirst found) :
    startsOperator found = true := by
  cases operator with
  | and rest =>
      rfl
  | or rest =>
      rfl
  | @not rest notEqual =>
      have alone : startsOperator [.plain '!'] = true := rfl
      exact startsOperator_append_of_true alone notEqual

/--
What the text of a literal is like: it has no white space around it, never closes
a parenthesis that it did not open, and has no operator at its own depth.
-/
structure LiteralShape (text : String) : Prop where
  nonempty : text ≠ ""
  trimmed : Text.trim text = text
  nonnegative : ∀ count, 0 ≤ Text.depth ((cells text.toList).take count)
  undivided :
    ∀ count,
      Text.depth ((cells text.toList).take count) = 0 →
      ¬OperatorFirst ((cells text.toList).drop count)

/-- A single literal is trimmed and takes its whole text. -/
theorem IsLiteral.exists_reachesEnd
    {text : String}
    (literal : IsLiteral text) :
    ∃ c rest,
      text.toList = c :: rest ∧
        ReachesEnd c rest ∧
        Text.trimChars (c :: rest) = c :: rest := by
  have tokens : scanFrom 0 (cells text.toList) = [⟨.literal, text, 0⟩] :=
    literal
  cases shape : text.toList with
  | nil =>
      rw [shape, scanFrom_nil] at tokens
      cases tokens
  | cons c rest =>
      rw [shape] at tokens
      cases visible : isSpace c with
      | true =>
          -- The token would stand behind the white space, and not at the front.
          have laid := laid_scanFrom 1 rest
          rw [← scanFrom_space 0 rest visible, tokens] at laid
          cases laid.position_le _ List.mem_cons_self
      | false =>
          rw [scanFrom_visible 0 rest visible] at tokens
          have first := (List.cons.inj tokens).1
          obtain ⟨notOpening, taken⟩ :=
            taken_of_leading_literal (congrArg Token.kind first)
          obtain ⟨isLiteral, length⟩ := leading_literal notOpening taken
          have trimmed :
              Text.trimChars (c :: rest.take (leading c rest).tail) = c :: rest := by
            have sameText := congrArg (fun token => token.text.toList) first
            simpa [shape] using sameText
          obtain ⟨spaces, whole, _⟩ :=
            Text.exists_trimBy_append (rest.take (leading c rest).tail) visible
          have bound := leading_tail_le c rest
          have reach : (leading c rest).tail = rest.length := by
            have lengths := congrArg List.length whole
            rw [← Text.trimChars, trimmed, List.length_cons, List.length_take,
              List.length_append, List.length_cons] at lengths
            omega
          rw [reach, List.take_length] at trimmed
          refine ⟨c, rest, rfl, ⟨notOpening, ?_⟩, trimmed⟩
          rw [length, ← reach, isLiteral, Nat.add_comm]

/-- A single literal has the shape of a literal. -/
theorem IsLiteral.literalShape
    {text : String}
    (literal : IsLiteral text) :
    LiteralShape text := by
  obtain ⟨c, rest, shape, reaches, trimmed⟩ := literal.exists_reachesEnd
  have whole
      (count : Nat) :
      literalLength 0
          ((cells text.toList).take count ++ (cells text.toList).drop count) =
        ((cells text.toList).take count ++ (cells text.toList).drop count).length := by
    rw [List.take_append_drop, shape, reaches.2, Text.length_cells, List.length_cons]
  constructor
  case nonempty =>
    rintro rfl
    cases shape
  case trimmed =>
    rw [Text.trim, shape, trimmed, ← shape, String.ofList_toList]
  case nonnegative =>
    intro count
    simpa using (literal_holds_together (whole count)).1
  case undivided =>
    intro count atZero operator
    have noOperator := (literal_holds_together (whole count)).2 (by simpa using atZero)
    rw [operator.startsOperator_eq] at noOperator
    cases noOperator

/-! ## What follows a literal -/

/-- The kinds of tokens that end a literal. -/
def Kind.followsLiteral : Kind → Bool
  | .and | .or | .not | .rightParen | .eof => true
  | .literal | .leftParen => false

/-- A literal goes on until something ends it. -/
theorem endsLiteral_of_leading_literal
    {c : Char}
    {rest : List Char}
    (isLiteral : (leading c rest).kind = .literal) :
    EndsLiteral (cells (rest.drop (leading c rest).tail)) := by
  obtain ⟨notOpening, taken⟩ := taken_of_leading_literal isLiteral
  obtain ⟨lead, _⟩ := leading_literal notOpening taken
  rw [← drop_leading, lead]
  exact endsLiteral_drop _

/-- Where a literal ends, no other literal and no group begins. -/
theorem EndsLiteral.exists_next
    {text : List Char}
    (ends : EndsLiteral (cells text))
    (position length : Nat) :
    ∃ next ∈ (scanFrom position (cells text) ++ [atEnd length]).head?,
      next.kind.followsLiteral = true := by
  cases text with
  | nil =>
      rw [scanFrom_nil]
      exact ⟨_, rfl, rfl⟩
  | cons c rest =>
      have untaken := ends.literalLength_eq_zero
      rcases leading_cases c rest with
        ⟨rfl, others, rfl⟩ | ⟨rfl, others, rfl⟩ | ⟨rfl, notEqual⟩ | rfl | rfl |
          ⟨_, taken⟩
      · rw [scanFrom_visible position _ (by decide)]
        exact ⟨_, rfl, rfl⟩
      · rw [scanFrom_visible position _ (by decide)]
        exact ⟨_, rfl, rfl⟩
      · rw [scanFrom_visible position _ (by decide), leading_not notEqual]
        exact ⟨_, rfl, rfl⟩
      · rw [Text.cells_cons_of_unmarked (by decide), literalLength_opening] at untaken
        omega
      · rw [scanFrom_visible position _ (by decide), leading_closing]
        exact ⟨_, rfl, rfl⟩
      · exact (taken untaken).elim

/-- Every literal is followed by a token that ends it. -/
theorem exists_next_of_scanFrom
    {position length : Nat}
    {text : List Char}
    {earlier later : List Token}
    {token : Token}
    (split :
      scanFrom position (cells text) ++ [atEnd length] = earlier ++ token :: later)
    (isLiteral : token.kind = .literal) :
    ∃ next ∈ later.head?, next.kind.followsLiteral = true := by
  induction text using scan_induction generalizing position earlier with
  | nil =>
      have isEnd : token ∈ [atEnd length] := by
        rw [scanFrom_nil, List.nil_append] at split
        simp [split]
      rw [List.mem_singleton.mp isEnd] at isLiteral
      cases isLiteral
  | space c rest space inductionHypothesis =>
      rw [scanFrom_space position rest space] at split
      exact inductionHypothesis split
  | token c rest visible inductionHypothesis =>
      rw [scanFrom_visible position rest visible, List.cons_append] at split
      cases earlier with
      | nil =>
          obtain ⟨rfl, rfl⟩ := List.cons.inj split
          exact (endsLiteral_of_leading_literal isLiteral).exists_next _ _
      | cons first others =>
          exact inductionHypothesis (List.cons.inj split).2

/-- No text begins with an end token. -/
theorem leading_kind_ne_eof
    (c : Char)
    (rest : List Char) :
    (leading c rest).kind ≠ .eof := by
  rcases leading_cases c rest with
    ⟨rfl, others, rfl⟩ | ⟨rfl, others, rfl⟩ | ⟨rfl, notEqual⟩ | rfl | rfl |
      ⟨notOpening, taken⟩
  · simp [leading_and]
  · simp [leading_or]
  · simp [leading_not notEqual]
  · simp [leading_opening]
  · simp [leading_closing]
  · simp [(leading_literal notOpening taken).1]

/-! ## The partition -/

/-- Tokens whose texts, at their positions, make up a text but for white space. -/
structure Partition
    (tokens : List Token)
    (source : String) : Prop where
  /-- A token begins after the one before it, and where that one has ended. -/
  ordered :
    tokens.Pairwise fun earlier later =>
      earlier.position < later.position ∧
        earlier.position + earlier.text.length ≤ later.position
  /-- The text of a token is what stands in the source from its position on. -/
  slices :
    ∀ token ∈ tokens,
      token.position + token.text.length ≤ source.length ∧
        (source.toList.drop token.position).take token.text.length =
          token.text.toList
  /-- A character that belongs to no token is white space. -/
  blanks :
    ∀ index c,
      source.toList[index]? = some c →
      (∀ token ∈ tokens,
        ¬(token.position ≤ index ∧
          index < token.position + token.text.length)) →
      isSpace c = true

/-- Tokens that are laid over a text partition it. -/
theorem Laid.partition
    {source : String}
    {tokens : List Token}
    (laid : Laid 0 source.toList tokens) :
    Partition tokens source := by
  constructor
  case ordered =>
    refine laid.pairwise.imp_of_mem ?_
    intro earlier later member _ ended
    have nonempty : 0 < earlier.text.length :=
      Nat.pos_of_ne_zero
        (fun none => laid.ne_empty earlier member (String.length_eq_zero_iff.mp none))
    exact ⟨Nat.lt_of_lt_of_le (Nat.lt_add_of_pos_right nonempty) ended, ended⟩
  case slices =>
    intro token member
    obtain ⟨before, after, whole, placed⟩ := laid.exists_split token member
    rw [Nat.zero_add] at placed
    have length :
        source.length = token.position + token.text.length + after.length := by
      rw [← String.length_toList, whole, List.length_append, List.length_append,
        String.length_toList, placed, Nat.add_assoc]
    constructor
    · rw [length]
      exact Nat.le_add_right _ _
    · rw [whole, placed, List.drop_left, List.take_left' String.length_toList]
  case blanks =>
    intro index c found uncovered
    rcases laid.covered_or_space found with ⟨token, member, covers⟩ | blank
    · rw [Nat.zero_add] at covers
      exact (uncovered token member covers).elim
    · exact blank

/--
Scanning refuses no text.  It ends with its only end token, at the end of the text.
The tokens before it partition the text, and every literal among them has the
shape of a literal and is followed by a token that ends it.
-/
theorem scan_partitions_source (source : String) :
    scanChecked source = .ok (scan source) ∧
      ∃ tokens,
        scan source = tokens ++ [⟨.eof, "", source.length⟩] ∧
          (∀ token ∈ tokens, token.kind ≠ .eof) ∧
          Partition tokens source ∧
          (∀ token ∈ tokens, token.kind = .literal → LiteralShape token.text) ∧
          ∀ earlier token later,
            scan source = earlier ++ token :: later →
            token.kind = .literal →
            ∃ next ∈ later.head?, next.kind.followsLiteral = true := by
  have checked : scanChecked source = .ok (scan source) := by
    rw [scan_eq, scanChecked_eq]
  refine ⟨checked, body source, scan_eq source, ?_, ?_, ?_, ?_⟩
  · intro token member
    obtain ⟨c, rest, _, kind, _⟩ := exists_leading_of_mem_scanFrom member
    rw [kind]
    exact leading_kind_ne_eof c rest
  · exact (laid_scanFrom 0 source.toList).partition
  · intro token member isLiteral
    exact (isLiteral_of_mem_scanFrom member isLiteral).literalShape
  · intro earlier token later split isLiteral
    rw [scan_eq] at split
    exact exists_next_of_scanFrom split isLiteral

/-- Operators inside a call or a quotation stay in their literal. -/
theorem scan_partitions_source_of_call :
    scanChecked "f(a||b)!='&&'  &&!c" =
        .ok
          [⟨.literal, "f(a||b)!='&&'", 0⟩, ⟨.and, "&&", 15⟩, ⟨.not, "!", 17⟩,
            ⟨.literal, "c", 18⟩, ⟨.eof, "", 19⟩] ∧
      LiteralShape "f(a||b)!='&&'" := by
  have scanned :
      scan "f(a||b)!='&&'  &&!c" =
        [⟨.literal, "f(a||b)!='&&'", 0⟩, ⟨.and, "&&", 15⟩, ⟨.not, "!", 17⟩,
          ⟨.literal, "c", 18⟩, ⟨.eof, "", 19⟩] := by
    decide +kernel
  obtain ⟨accepted, tokens, split, _, _, literals, _⟩ :=
    scan_partitions_source "f(a||b)!='&&'  &&!c"
  rw [scanned] at accepted split
  refine ⟨accepted, literals ⟨.literal, "f(a||b)!='&&'", 0⟩ ?_ rfl⟩
  have first : tokens.head? = some ⟨.literal, "f(a||b)!='&&'", 0⟩ := by
    cases tokens with
    | nil =>
        cases split
    | cons token rest =>
        exact congrArg some (List.cons.inj split).1.symm
  exact List.mem_of_mem_head? first

end WorkflowConditions.Token
