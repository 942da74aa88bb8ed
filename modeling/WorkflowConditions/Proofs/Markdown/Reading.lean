import WorkflowConditions.Markdown.Expression

namespace WorkflowConditions.Markdown

open Text (after? after?_eq_some_iff opening closing)

/-!
# The reading of a markdown text

An expression is found from an opening to the nearest closing, both on one line.
`Reads` says what it means to take expressions from left to right without overlap; a
text has exactly one such reading, and `pieces` computes it.
-/

/-- What can stand in a wrapper: one line with no closing before the wrapper's own. -/
structure IsContent (content : List Char) : Prop where
  oneLine : '\n' ∉ content
  nearest :
    ∀ front back,
      content ++ closing = front ++ (closing ++ back) →
      back = []

/-- A text does not begin with an opening that a closing on its line follows. -/
def Unwrapped (text : List Char) : Prop :=
  ∀ content rest,
    '\n' ∉ content →
    text ≠ Piece.wrap content ++ rest

/-- The reading of a text from left to right. -/
inductive Reads : List Char → List Piece → Prop where
  | nil : Reads [] []
  | wrapped
      {content rest : List Char}
      {parts : List Piece}
      (isContent : IsContent content)
      (reads : Reads rest parts) :
      Reads (Piece.wrap content ++ rest) (.wrapped content :: parts)
  | plain
      {c : Char}
      {rest : List Char}
      {parts : List Piece}
      (unwrapped : Unwrapped (c :: rest))
      (reads : Reads rest parts) :
      Reads (c :: rest) (.plain c :: parts)

/-- What stands behind a wrapper may be taken into it. -/
theorem wrap_append
    (content rest : List Char) :
    Piece.wrap content ++ rest = opening ++ (content ++ (closing ++ rest)) := by
  simp [Piece.wrap]

/-! ## The nearest closing -/

/-- An empty wrapper is an expression too. -/
theorem isContent_nil : IsContent [] := by
  constructor
  · simp
  · intro front back whole
    have lengths := congrArg List.length whole
    simp [closing] at lengths
    exact List.eq_nil_of_length_eq_zero (by omega)

/-- A closing that is not in a content is not in its rest. -/
theorem IsContent.tail
    {c : Char}
    {content : List Char}
    (isContent : IsContent (c :: content)) :
    IsContent content := by
  constructor
  · intro member
    exact isContent.oneLine (by simp [member])
  · intro front back whole
    exact isContent.nearest (c :: front) back (by simp [whole])

/-- A closing that is not in a content is not behind any front of it. -/
theorem IsContent.of_append
    {front content : List Char}
    (isContent : IsContent (front ++ content)) :
    IsContent content := by
  induction front with
  | nil =>
      exact isContent
  | cons c rest inductionHypothesis =>
      exact inductionHypothesis isContent.tail

/-- A closing at the front of a content would be nearer than the content's own. -/
theorem IsContent.after?_closing
    {c : Char}
    {content : List Char}
    (isContent : IsContent (c :: content))
    (rest : List Char) :
    after? closing (c :: (content ++ (closing ++ rest))) = none := by
  rw [Option.eq_none_iff_forall_ne_some]
  intro found isFound
  have front := after?_eq_some_iff.mp isFound
  cases content with
  | nil =>
      have nearer := isContent.nearest [] ['\x7d']
      simp_all [closing]
  | cons d others =>
      have nearer := isContent.nearest [] (others ++ closing)
      simp_all [closing]

/-- The search stops at the closing of a content, for there is no nearer one. -/
theorem upToClosing?_of_isContent
    {content : List Char}
    (isContent : IsContent content)
    (rest : List Char) :
    upToClosing? (content ++ (closing ++ rest)) = some (content, rest) := by
  induction content with
  | nil =>
      simp [upToClosing?, after?, closing]
  | cons c content inductionHypothesis =>
      have sameLine : c ≠ '\n' := by
        rintro rfl
        exact isContent.oneLine (by simp)
      have later := inductionHypothesis isContent.tail
      rw [List.cons_append, upToClosing?, isContent.after?_closing rest]
      simp [sameLine, later]

/-- Where the search stops there was no nearer closing and no line end. -/
theorem isContent_of_upToClosing?
    {text content rest : List Char}
    (found : upToClosing? text = some (content, rest)) :
    IsContent content := by
  induction text generalizing content with
  | nil =>
      simp [upToClosing?] at found
  | cons c text inductionHypothesis =>
      unfold upToClosing? at found
      split at found
      · obtain ⟨rfl, _⟩ : [] = content ∧ _ = rest := by simpa using found
        exact isContent_nil
      · next noClosing =>
          split at found
          · cases found
          · next sameLine =>
              obtain ⟨⟨inner, after⟩, located, equal⟩ := Option.map_eq_some_iff.mp found
              obtain ⟨rfl, rfl⟩ : c :: inner = content ∧ after = rest := by
                simpa using equal
              have isContent := inductionHypothesis located
              constructor
              · simp only [List.mem_cons, not_or]
                exact ⟨Ne.symm sameLine, isContent.oneLine⟩
              · intro front back whole
                cases front with
                | nil =>
                    -- The closing would stand at the front of the whole text.
                    have starts :
                        after? closing (c :: text) = some (back ++ after) := by
                      rw [after?_eq_some_iff, eq_append_of_upToClosing? located,
                        ← List.cons_append, ← List.cons_append, whole]
                      simp
                    rw [noClosing] at starts
                    cases starts
                | cons d front =>
                    exact isContent.nearest front back (List.cons.inj whole).2

/-- The nearest closing is found exactly behind a content. -/
theorem upToClosing?_eq_some_iff
    {text content rest : List Char} :
    upToClosing? text = some (content, rest) ↔
      IsContent content ∧ text = content ++ (closing ++ rest) := by
  constructor
  · intro found
    refine ⟨isContent_of_upToClosing? found, ?_⟩
    simpa using eq_append_of_upToClosing? found
  · rintro ⟨isContent, rfl⟩
    exact upToClosing?_of_isContent isContent rest

/-- The content before a closing is determined by the text. -/
theorem IsContent.unique
    {first second firstRest secondRest : List Char}
    (isFirst : IsContent first)
    (isSecond : IsContent second)
    (same :
      first ++ (closing ++ firstRest) = second ++ (closing ++ secondRest)) :
    first = second := by
  have found := upToClosing?_of_isContent isFirst firstRest
  rw [same, upToClosing?_of_isContent isSecond secondRest] at found
  exact (Prod.mk.inj (Option.some.inj found)).1.symm

/-- On a line with a closing the search stops somewhere. -/
theorem exists_upToClosing?
    {line : List Char}
    (oneLine : '\n' ∉ line)
    (rest : List Char) :
    ∃ found, upToClosing? (line ++ (closing ++ rest)) = some found := by
  induction line with
  | nil =>
      exact ⟨_, upToClosing?_of_isContent isContent_nil rest⟩
  | cons c line inductionHypothesis =>
      simp only [List.mem_cons, not_or] at oneLine
      obtain ⟨⟨content, after⟩, located⟩ := inductionHypothesis oneLine.2
      rw [List.cons_append, upToClosing?]
      split
      · exact ⟨_, rfl⟩
      · rw [if_neg (Ne.symm oneLine.1), located]
        exact ⟨_, rfl⟩

/-! ## Expressions at the front -/

/-- An expression is found exactly where a wrapped content stands. -/
theorem expression?_eq_some_iff
    {text content rest : List Char} :
    expression? text = some (content, rest) ↔
      IsContent content ∧ text = Piece.wrap content ++ rest := by
  unfold expression?
  constructor
  · intro found
    split at found
    · next inner opened =>
        obtain ⟨isContent, rfl⟩ := upToClosing?_eq_some_iff.mp found
        exact ⟨isContent, by rw [after?_eq_some_iff.mp opened, wrap_append]⟩
    · cases found
  · rintro ⟨isContent, rfl⟩
    rw [wrap_append, after?_eq_some_iff.mpr rfl]
    exact upToClosing?_of_isContent isContent rest

/-- Nothing is found exactly where no wrapped content stands. -/
theorem expression?_eq_none_iff
    {text : List Char} :
    expression? text = none ↔ Unwrapped text := by
  constructor
  · rintro none content rest oneLine rfl
    obtain ⟨found, located⟩ := exists_upToClosing? oneLine rest
    rw [expression?, wrap_append, after?_eq_some_iff.mpr rfl] at none
    cases none.symm.trans located
  · intro unwrapped
    rw [Option.eq_none_iff_forall_ne_some]
    rintro ⟨content, rest⟩ found
    obtain ⟨isContent, whole⟩ := expression?_eq_some_iff.mp found
    exact unwrapped content rest isContent.oneLine whole

/-- A wrapped content is one piece. -/
theorem pieces_wrapped
    {content : List Char}
    (isContent : IsContent content)
    (rest : List Char) :
    pieces (Piece.wrap content ++ rest) = .wrapped content :: pieces rest := by
  have located :
      expression? (Piece.wrap content ++ rest) = some (content, rest) :=
    expression?_eq_some_iff.mpr ⟨isContent, rfl⟩
  rw [wrap_append, opening] at located ⊢
  simp only [List.cons_append, List.nil_append] at located ⊢
  rw [pieces]
  split
  · next found =>
      rw [located] at found
      cases found
      rfl
  · next none =>
      rw [located] at none
      cases none

/-- A character at which no expression begins is a piece of its own. -/
theorem pieces_plain
    {c : Char}
    {rest : List Char}
    (unwrapped : Unwrapped (c :: rest)) :
    pieces (c :: rest) = .plain c :: pieces rest := by
  have located := expression?_eq_none_iff.mpr unwrapped
  rw [pieces]
  split
  · next found =>
      rw [located] at found
      cases found
  · rfl

/-- The pieces of a text are those that the grammar of markdown gives it. -/
theorem reads_pieces (text : List Char) : Reads text (pieces text) := by
  induction length : text.length using Nat.strongRecOn generalizing text with
  | ind size inductionHypothesis =>
      subst length
      cases text with
      | nil =>
          rw [pieces]
          exact .nil
      | cons c rest =>
          cases found : expression? (c :: rest) with
          | none =>
              have unwrapped := expression?_eq_none_iff.mp found
              rw [pieces_plain unwrapped]
              exact .plain unwrapped
                (inductionHypothesis rest.length (by simp) rest rfl)
          | some located =>
              rcases located with ⟨content, after⟩
              obtain ⟨isContent, whole⟩ := expression?_eq_some_iff.mp found
              have shorter := length_lt_of_expression? found
              rw [whole, pieces_wrapped isContent]
              exact .wrapped isContent
                (inductionHypothesis after.length shorter after rfl)

/-- A text has exactly one reading. -/
theorem reads_iff
    {text : List Char}
    {parts : List Piece} :
    Reads text parts ↔ parts = pieces text := by
  constructor
  · intro reads
    induction reads with
    | nil =>
        rw [pieces]
    | wrapped isContent _ inductionHypothesis =>
        rw [pieces_wrapped isContent, inductionHypothesis]
    | plain unwrapped _ inductionHypothesis =>
        rw [pieces_plain unwrapped, inductionHypothesis]
  · rintro rfl
    exact reads_pieces text

/-- Every expression that is read has a content. -/
theorem Reads.isContent
    {text content : List Char}
    {parts : List Piece}
    (reads : Reads text parts)
    (member : .wrapped content ∈ parts) :
    IsContent content := by
  induction reads with
  | nil =>
      simp at member
  | wrapped isContent _ inductionHypothesis =>
      rcases List.mem_cons.mp member with isHead | inRest
      · cases isHead
        exact isContent
      · exact inductionHypothesis inRest
  | plain _ _ inductionHypothesis =>
      rcases List.mem_cons.mp member with isHead | inRest
      · cases isHead
      · exact inductionHypothesis inRest

theorem mem_contents_iff
    {text content : List Char} :
    content ∈ contents text ↔ .wrapped content ∈ pieces text := by
  rw [contents, List.mem_filterMap]
  constructor
  · rintro ⟨piece, member, isContent⟩
    cases piece with
    | plain c =>
        cases isContent
    | wrapped inner =>
        cases isContent
        exact member
  · intro member
    exact ⟨_, member, rfl⟩

end WorkflowConditions.Markdown
