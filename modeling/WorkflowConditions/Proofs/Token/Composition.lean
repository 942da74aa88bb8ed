import WorkflowConditions.Proofs.Token.LiteralText

namespace WorkflowConditions.Token

open Text (Cell Quotation cells cellsFrom isSpace isQuotationMark Closed)

/-!
# Tokens of composed conditions

The tokens of a condition that is put before a connective, or into parentheses, are
its own tokens, moved to where it stands.  This holds exactly when reading the
condition ends outside every quotation and with no parenthesis of a literal open:
otherwise its last literal goes on into what follows.  How the condition ends is
otherwise of no account, be it with half a connective, a negation, a backslash or
white space.
-/

/-- A token that stands a distance further to the right. -/
def moved
    (distance : Nat)
    (token : Token) :
    Token :=
  { token with position := distance + token.position }

/-- A text that stands further on has the same tokens, further on. -/
theorem scanFrom_add
    (distance position : Nat)
    (text : List Char) :
    scanFrom (distance + position) (cells text) =
      (scanFrom position (cells text)).map (moved distance) := by
  induction text using scan_induction generalizing position with
  | nil =>
      simp
  | space c rest space inductionHypothesis =>
      rw [scanFrom_space _ rest space, scanFrom_space _ rest space, Nat.add_assoc,
        inductionHypothesis]
  | token c rest visible inductionHypothesis =>
      rw [scanFrom_visible _ rest visible, scanFrom_visible _ rest visible, Nat.add_assoc,
        Nat.add_assoc, inductionHypothesis, List.map_cons, ← Nat.add_assoc]
      rfl

/-- The position of a text does not change how many tokens it has. -/
theorem length_scanFrom
    (position : Nat)
    (text : List Char) :
    (scanFrom position (cells text)).length = (bareTokens text).length := by
  rw [← map_bare_scanFrom position, List.length_map]

/-! ## Texts that end closed -/

/-- Reading a text ends outside every quotation, and no parenthesis of a literal is open. -/
structure EndsClosed (source : String) : Prop where
  quotations : Quotation.outside.after source.toList = .outside
  parentheses :
    ∀ token ∈ scan source,
      token.kind = .literal →
      Text.depth (cells token.text.toList) = 0

theorem settled_nil : Settled [] := by
  intro token member
  rw [bareTokens_nil] at member
  cases member

/-- White space in front is no part of any literal. -/
theorem settled_space_iff
    {c : Char}
    {rest : List Char}
    (space : isSpace c = true) :
    Settled (c :: rest) ↔ Settled rest := by
  rw [Settled, bareTokens_space rest space, Settled]

/--
A text is settled when its first token is closed, if it is a literal, and the rest is
settled.
-/
theorem settled_visible_iff
    {c : Char}
    {rest : List Char}
    (visible : isSpace c = false) :
    Settled (c :: rest) ↔
      ((leading c rest).kind = .literal →
          Closed (Text.trimChars (c :: rest.take (leading c rest).tail))) ∧
        Settled (rest.drop (leading c rest).tail) := by
  rw [Settled, bareTokens_visible rest visible, List.forall_mem_cons, String.toList_ofList]
  rfl

/-- A lexeme that ends before its text is no reason for the text to be unsettled. -/
theorem settled_iff_of_ended
    {c : Char}
    {rest : List Char}
    (visible : isSpace c = false)
    (ended : ¬ReachesEnd c rest) :
    Settled (c :: rest) ↔ Settled (rest.drop (leading c rest).tail) := by
  rw [settled_visible_iff visible]
  refine and_iff_right ?_
  intro isLiteral
  obtain ⟨notOpening, taken⟩ := taken_of_leading_literal isLiteral
  exact closed_leading visible notOpening taken ended

/-- A single literal is settled exactly when it is closed. -/
theorem settled_iff_of_reachesEnd
    {c : Char}
    {rest : List Char}
    (visible : isSpace c = false)
    (reaches : ReachesEnd c rest) :
    Settled (c :: rest) ↔ Closed (c :: rest) := by
  rw [settled_visible_iff visible, reaches.leading_eq.1, List.take_length, List.drop_length]
  constructor
  · rintro ⟨first, _⟩
    exact closed_of_trimChars visible (first rfl)
  · intro closed
    refine ⟨fun _ => ?_, settled_nil⟩
    obtain ⟨spaces, whole, blank⟩ := Text.exists_trimBy_append rest visible
    rw [whole] at closed
    exact closed.of_append_spaces blank

/-- The reader is outside every quotation behind a lexeme that ends before its text. -/
theorem after_leading
    {c : Char}
    {rest : List Char}
    (ends : ¬ReachesEnd c rest) :
    Quotation.outside.after (c :: rest.take (leading c rest).tail) = .outside := by
  rcases leading_cases c rest with
    ⟨rfl, others, rfl⟩ | ⟨rfl, others, rfl⟩ | ⟨rfl, notEqual⟩ | rfl | rfl |
      ⟨notOpening, taken⟩
  · rfl
  · rfl
  · rw [leading_not notEqual]
    rfl
  · rw [leading_opening]
    rfl
  · rw [leading_closing]
    rfl
  · obtain ⟨isLiteral, length⟩ := leading_literal notOpening taken
    have unreached := literalLength_lt_of_not_reachesEnd notOpening ends
    rw [Text.length_cells, List.length_cons] at unreached
    rw [isLiteral]
    exact literal_leaves_outside (by omega)

/-- A token before the end leaves the reader outside, so the rest decides where it ends. -/
theorem after_drop_leading
    {c : Char}
    {rest : List Char}
    (ends : ¬ReachesEnd c rest) :
    Quotation.outside.after (c :: rest) =
      Quotation.outside.after (rest.drop (leading c rest).tail) := by
  have split :
      c :: rest =
        (c :: rest.take (leading c rest).tail) ++ rest.drop (leading c rest).tail := by
    rw [List.cons_append, List.take_append_drop]
  conv =>
    lhs
    rw [split]
  rw [Quotation.after_append, after_leading ends]

/-- When all literals of a text are closed, so are all its quotations. -/
theorem Settled.quotations
    {text : List Char}
    (settled : Settled text) :
    Quotation.outside.after text = .outside := by
  induction text using scan_induction with
  | nil =>
      rfl
  | space c rest space inductionHypothesis =>
      rw [Quotation.after_cons,
        Quotation.next_outside (Text.isQuotationMark_of_isSpace space)]
      exact inductionHypothesis ((settled_space_iff space).mp settled)
  | token c rest visible inductionHypothesis =>
      by_cases reaches : ReachesEnd c rest
      · exact ((settled_iff_of_reachesEnd visible reaches).mp settled).quotations
      · rw [after_drop_leading reaches]
        exact inductionHypothesis ((settled_iff_of_ended visible reaches).mp settled)

/-- Only the end of a text can keep a quotation of a literal open. -/
theorem settled_of_quotations
    {text : List Char}
    (quotations : Quotation.outside.after text = .outside)
    (parentheses :
      ∀ token ∈ bareTokens text,
        token.kind = .literal →
        Text.depth (cells token.text.toList) = 0) :
    Settled text := by
  induction text using scan_induction with
  | nil =>
      exact settled_nil
  | space c rest space inductionHypothesis =>
      rw [Quotation.after_cons,
        Quotation.next_outside (Text.isQuotationMark_of_isSpace space)] at quotations
      rw [bareTokens_space rest space] at parentheses
      exact (settled_space_iff space).mpr (inductionHypothesis quotations parentheses)
  | token c rest visible inductionHypothesis =>
      rw [bareTokens_visible rest visible, List.forall_mem_cons, String.toList_ofList]
        at parentheses
      obtain ⟨first, later⟩ := parentheses
      by_cases reaches : ReachesEnd c rest
      · refine (settled_iff_of_reachesEnd visible reaches).mpr ⟨quotations, ?_⟩
        rw [reaches.leading_eq.1, List.take_length] at first
        obtain ⟨spaces, whole, blank⟩ := Text.exists_trimBy_append rest visible
        rw [whole, Text.cells_append, Text.depth_append, Text.depth_cellsFrom_spaces _ blank,
          Int.add_zero]
        exact first rfl
      · rw [after_drop_leading reaches] at quotations
        exact (settled_iff_of_ended visible reaches).mpr (inductionHypothesis quotations later)

/-- The end token is no literal. -/
theorem mem_scan_iff
    {source : String}
    {token : Token}
    (isLiteral : token.kind = .literal) :
    token ∈ scan source ↔ token ∈ body source := by
  have notEnd : token ≠ atEnd source.length := by
    rintro rfl
    cases isLiteral
  simp [scan_eq, notEnd]

/-- A text ends closed exactly when all its literals are closed. -/
theorem endsClosed_iff_settled {source : String} :
    EndsClosed source ↔ Settled source.toList := by
  constructor
  · rintro ⟨quotations, parentheses⟩
    refine settled_of_quotations quotations ?_
    intro placed member isLiteral
    obtain ⟨token, inBody, rfl⟩ := List.mem_map.mp member
    have sameKind : token.kind = .literal := isLiteral
    exact parentheses token ((mem_scan_iff sameKind).mpr inBody) sameKind
  · intro settled
    refine ⟨settled.quotations, ?_⟩
    intro token member isLiteral
    have inBody := (mem_scan_iff isLiteral).mp member
    exact (settled token.bare (List.mem_map_of_mem inBody) isLiteral).parentheses

/-! ## A literal that is open at the end -/

/-- In a quotation, or with a parenthesis open, a literal takes a closing parenthesis. -/
theorem literalLength_closing_of_open
    {quotation : Quotation}
    {inner : Nat}
    (isOpen : quotation = .outside → inner ≠ 0) :
    literalLength inner (cellsFrom quotation [')']) = 1 := by
  by_cases outside : quotation = .outside
  · subst outside
    cases inner with
    | zero =>
        exact (isOpen rfl rfl).elim
    | succ inner =>
        exact literalLength_closing inner []
  · have covered : quotation.covers ')' = true := by
      cases uncovered : quotation.covers ')' with
      | true =>
          rfl
      | false =>
          exact (outside (Quotation.eq_outside_of_covers uncovered)).elim
    rw [cellsFrom, covered, literalLength_other (by decide) (by decide) (fun _ => rfl)]
    rfl

/-- What is open at the end of a literal takes a closing parenthesis along. -/
theorem ReachesEnd.append_closing
    {c : Char}
    {rest : List Char}
    (reaches : ReachesEnd c rest)
    (unclosed : ¬Closed (c :: rest)) :
    ReachesEnd c (rest ++ [')']) := by
  have whole :
      literalLength 0 (cells (c :: rest)) = (cells (c :: rest)).length := by
    simpa using reaches.2
  obtain ⟨inner, atDepth, continued⟩ :=
    literalLength_append_of_eq
      ((seam_closing []).unfused_cellsFrom (Quotation.outside.after (c :: rest))) whole
  have isOpen : Quotation.outside.after (c :: rest) = .outside → inner ≠ 0 := by
    intro quotations atZero
    subst atZero
    exact unclosed ⟨quotations, by omega⟩
  refine ⟨reaches.1, ?_⟩
  rw [← List.cons_append, Text.cells_append, continued, literalLength_closing_of_open isOpen,
    Text.length_cells, List.length_cons, List.length_append, List.length_singleton]

/-- A text with an open literal has no more tokens before a closing parenthesis. -/
theorem length_bareTokens_append_closing
    {text : List Char}
    (unsettled : ¬Settled text) :
    (bareTokens (text ++ [')'])).length = (bareTokens text).length := by
  induction text using scan_induction with
  | nil =>
      exact (unsettled settled_nil).elim
  | space c rest space inductionHypothesis =>
      rw [settled_space_iff space] at unsettled
      rw [List.cons_append, bareTokens_space _ space, bareTokens_space _ space,
        inductionHypothesis unsettled]
  | token c rest visible inductionHypothesis =>
      rw [List.cons_append, bareTokens_visible _ visible, bareTokens_visible _ visible,
        List.length_cons, List.length_cons]
      by_cases reaches : ReachesEnd c rest
      · rw [settled_iff_of_reachesEnd visible reaches] at unsettled
        rw [(reaches.append_closing unsettled).leading_eq.1, reaches.leading_eq.1,
          List.drop_length, List.drop_length]
      · rw [settled_iff_of_ended visible reaches] at unsettled
        rw [leading_append (seam_closing []) reaches,
          List.drop_append_of_le_length (leading_tail_le c rest), inductionHypothesis unsettled]

/-! ## Composition -/

/-- The literals of a settled text are closed, wherever it stands. -/
theorem Settled.closed
    {text : List Char}
    (settled : Settled text)
    (position : Nat) :
    ∀ token ∈ scanFrom position (cells text),
      token.kind = .literal →
      Closed token.text.toList := by
  intro token member isLiteral
  have placed : token.bare ∈ bareTokens text := by
    rw [← map_bare_scanFrom position]
    exact List.mem_map_of_mem member
  exact settled token.bare placed isLiteral

/-- The two connectives and how they are written. -/
def connectives : List (Kind × String) :=
  [(.and, "&&"), (.or, "||")]

theorem connective_cases
    {kind : Kind}
    {symbol : String}
    (isConnective : (kind, symbol) ∈ connectives) :
    kind = .and ∧ symbol = "&&" ∨ kind = .or ∧ symbol = "||" := by
  simpa [connectives] using isConnective

/-- A connective is a token of its own, whatever follows. -/
theorem scanFrom_connective
    (position : Nat)
    {kind : Kind}
    {symbol : String}
    (isConnective : (kind, symbol) ∈ connectives)
    (rest : List Char) :
    scanFrom position (cells (symbol.toList ++ rest)) =
      ⟨kind, symbol, position⟩ :: scanFrom (position + 2) (cells rest) := by
  rcases connective_cases isConnective with ⟨rfl, rfl⟩ | ⟨rfl, rfl⟩
  · exact scanFrom_visible position ('&' :: rest) (by decide)
  · exact scanFrom_visible position ('|' :: rest) (by decide)

theorem seam_connective
    {kind : Kind}
    {symbol : String}
    (isConnective : (kind, symbol) ∈ connectives)
    (rest : List Char) :
    Seam (' ' :: (symbol.toList ++ rest)) := by
  rcases connective_cases isConnective with ⟨rfl, rfl⟩ | ⟨rfl, rfl⟩
  · exact seam_and rest
  · exact seam_or rest

@[simp] theorem dropLast_scan (source : String) :
    (scan source).dropLast = body source := by
  rw [scan_eq, List.dropLast_concat]

/-- A condition that ends closed keeps its tokens before a connective. -/
theorem Settled.scan_joined
    {first : String}
    (settled : Settled first.toList)
    {kind : Kind}
    {symbol : String}
    (isConnective : (kind, symbol) ∈ connectives)
    (second : String) :
    scan (first ++ " " ++ symbol ++ " " ++ second) =
      body first ++
        ⟨kind, symbol, first.length + 1⟩ :: (scan second).map (moved (first.length + 4)) := by
  have letters :
      (first ++ " " ++ symbol ++ " " ++ second).toList =
        first.toList ++ ' ' :: (symbol.toList ++ ' ' :: second.toList) := by
    simp
  have size :
      (first ++ " " ++ symbol ++ " " ++ second).length = first.length + 4 + second.length := by
    have two : symbol.length = 2 := by
      rcases connective_cases isConnective with ⟨_, rfl⟩ | ⟨_, rfl⟩ <;>
        decide
    have one : " ".length = 1 := rfl
    rw [String.length_append, String.length_append, String.length_append,
      String.length_append, two, one]
  have behind := scanFrom_add (first.length + 4) 0 second.toList
  rw [scan_eq, scan_eq, body, letters,
    scanFrom_append 0 (settled.closed 0) (seam_connective isConnective _),
    scanFrom_space _ _ (by decide), scanFrom_connective _ isConnective,
    scanFrom_space _ _ (by decide), Nat.zero_add, String.length_toList, size,
    List.map_append, body, body, ← behind, List.append_assoc]
  rfl

/-- An opening parenthesis is a token of its own. -/
theorem body_parenthesised (text : String) :
    body ("(" ++ text ++ ")") =
      ⟨.leftParen, "(", 0⟩ :: scanFrom 1 (cells (text.toList ++ [')'])) := by
  have letters : ("(" ++ text ++ ")").toList = '(' :: (text.toList ++ [')']) := by
    simp
  rw [body, letters, scanFrom_visible _ _ (by decide), leading_opening]
  rfl

/-- A condition that ends closed keeps its tokens in parentheses. -/
theorem Settled.scan_parenthesised
    {text : String}
    (settled : Settled text.toList) :
    scan ("(" ++ text ++ ")") =
      ⟨.leftParen, "(", 0⟩ ::
        ((body text).map (moved 1) ++
          [⟨.rightParen, ")", text.length + 1⟩, atEnd (text.length + 2)]) := by
  have size : ("(" ++ text ++ ")").length = text.length + 2 := by
    have opens : "(".length = 1 := rfl
    have closes : ")".length = 1 := rfl
    rw [String.length_append, String.length_append, opens, closes]
    omega
  have inner := scanFrom_add 1 0 text.toList
  have last : scanFrom (1 + text.length) (cells [')']) = [⟨.rightParen, ")", text.length + 1⟩] := by
    rw [scanFrom_visible _ _ (by decide), leading_closing, List.drop_zero, scanFrom_nil,
      Nat.add_comm]
    rfl
  rw [scan_eq, body_parenthesised, scanFrom_append _ (settled.closed _) (seam_closing []), inner,
    String.length_toList, last, size, ← body, List.cons_append, List.append_assoc]
  rfl

/--
A condition keeps its tokens before every connective and in parentheses exactly when it
ends closed; what follows the connective has its own tokens too.
-/
theorem scan_composes_iff_endsClosed (first : String) :
    EndsClosed first ↔
      (∀ kind symbol,
          (kind, symbol) ∈ connectives →
          ∀ second,
            scan (first ++ " " ++ symbol ++ " " ++ second) =
              (scan first).dropLast ++
                ⟨kind, symbol, first.length + 1⟩ ::
                  (scan second).map (moved (first.length + 4))) ∧
        scan ("(" ++ first ++ ")") =
          ⟨.leftParen, "(", 0⟩ ::
            ((scan first).dropLast.map (moved 1) ++
              [⟨.rightParen, ")", first.length + 1⟩, atEnd (first.length + 2)]) := by
  rw [endsClosed_iff_settled, dropLast_scan]
  constructor
  · intro settled
    exact ⟨fun _ _ isConnective second => settled.scan_joined isConnective second,
      settled.scan_parenthesised⟩
  · rintro ⟨_, parenthesised⟩
    -- An open literal would swallow the closing parenthesis, so a token would be missing.
    refine Classical.byContradiction fun unsettled => ?_
    have same := length_bareTokens_append_closing unsettled
    rw [← length_scanFrom 1, ← length_scanFrom 0, ← body] at same
    have lengths := congrArg List.length parenthesised
    simp only [scan_eq, body_parenthesised, List.length_append, List.length_cons, same,
      List.length_map, List.length_nil] at lengths
    omega

-- Half a connective before a connective stays a literal of its own.
example :
    scan "!a\\&" = [⟨.not, "!", 0⟩, ⟨.literal, "a\\&", 1⟩, atEnd 4] ∧
      scan "!a\\& && b" =
        [⟨.not, "!", 0⟩, ⟨.literal, "a\\&", 1⟩, ⟨.and, "&&", 5⟩, ⟨.literal, "b", 8⟩, atEnd 9] := by
  decide +kernel

end WorkflowConditions.Token
