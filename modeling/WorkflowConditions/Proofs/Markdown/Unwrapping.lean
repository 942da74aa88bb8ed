import WorkflowConditions.Proofs.Markdown.Recording
import WorkflowConditions.Proofs.Text.Space

namespace WorkflowConditions.Markdown

open Text (opening closing isSpace trimChars unwrapChars)

/-!
# Unwrapping and recording

Unwrapping a text looks at its two ends, recording looks for the nearest closing.  The
two agree on a text in a wrapper exactly when no closing ends before the text does.  In
a text of several expressions, or with a closing inside, unwrapping takes the ends of
different wrappers for one, and delimiters are left inside.
-/

/-! ## Texts in a wrapper -/

/-- A text that begins with an opening and ends with a closing is one in a wrapper. -/
theorem exists_eq_wrap
    {text : List Char}
    (begins : opening <+: text)
    (ends : closing <:+ text) :
    ∃ content, text = Piece.wrap content := by
  obtain ⟨inner, rfl⟩ := begins
  obtain ⟨front, whole⟩ := ends
  have atEnd : opening ++ inner = front ++ (closing ++ []) := by
    rw [List.append_nil, whole]
  obtain ⟨content, _, rfl⟩ := exists_inner_of_opening atEnd
  exact ⟨content, by simp [Piece.wrap]⟩

/-- What is left of a text in a wrapper, white space around it left aside. -/
theorem unwrapChars_of_wrap
    {text content : List Char}
    (wrapped : trimChars text = Piece.wrap content) :
    unwrapChars text = trimChars content := by
  have begins : opening.isPrefixOf (Piece.wrap content) = true := by
    simp [Piece.wrap, List.append_assoc]
  have ends : closing.isSuffixOf (Piece.wrap content) = true :=
    List.isSuffixOf_iff_suffix.mpr (List.suffix_append _ _)
  have inner :
      ((Piece.wrap content).take ((Piece.wrap content).length - closing.length)).drop
          opening.length =
        content := by
    rw [Piece.wrap, List.length_append, Nat.add_sub_cancel, List.take_left, List.drop_left]
  simp only [unwrapChars, wrapped, begins, ends, Bool.and_self, if_true, inner]

/-- No closing of a text ends before the text does. -/
def ClosesOnlyAtEnd (text : List Char) : Prop :=
  ∀ front back,
    text = front ++ (closing ++ back) →
    back = []

/-- The closing of a wrapper is the nearest when no other ends before it. -/
theorem closesOnlyAtEnd_wrap_iff
    {content : List Char}
    (oneLine : '\n' ∉ content) :
    ClosesOnlyAtEnd (Piece.wrap content) ↔ IsContent content := by
  constructor
  · intro onlyAtEnd
    refine ⟨oneLine, ?_⟩
    intro front back whole
    exact onlyAtEnd (opening ++ front) back (by simp [Piece.wrap, whole])
  · intro isContent front back whole
    rw [Piece.wrap, List.append_assoc] at whole
    obtain ⟨later, _, inner⟩ := exists_inner_of_opening whole
    exact isContent.nearest later back inner

/-! ## White space around an expression -/

/-- An expression begins with a dollar sign. -/
theorem unwrapped_of_ne_dollar
    {c : Char}
    (other : c ≠ '$')
    (rest : List Char) :
    Unwrapped (c :: rest) := by
  rintro content after _ whole
  exact other (List.cons.inj whole).1

theorem ne_dollar_of_isSpace
    {c : Char}
    (space : isSpace c = true) :
    c ≠ '$' := by
  rintro rfl
  revert space
  decide

/-- White space in front of a text adds no expression. -/
theorem contents_spaces_append
    {spaces : List Char}
    (blank : ∀ c ∈ spaces, isSpace c = true)
    (text : List Char) :
    contents (spaces ++ text) = contents text := by
  induction spaces with
  | nil =>
      rfl
  | cons c rest inductionHypothesis =>
      have plain :=
        pieces_plain
          (unwrapped_of_ne_dollar (ne_dollar_of_isSpace (blank c (by simp))) (rest ++ text))
      have later := inductionHypothesis fun item member => blank item (by simp [member])
      rw [contents] at later ⊢
      rw [List.cons_append, plain, List.filterMap_cons_none rfl, later, contents]

/-- White space has no expression. -/
theorem contents_spaces
    {spaces : List Char}
    (blank : ∀ c ∈ spaces, isSpace c = true) :
    contents spaces = [] := by
  have skipped := contents_spaces_append blank []
  rw [List.append_nil] at skipped
  rw [skipped, contents, pieces]
  rfl

/-- An expression in front of a text is the first of its expressions. -/
theorem contents_wrap_append
    {content : List Char}
    (isContent : IsContent content)
    (rest : List Char) :
    contents (Piece.wrap content ++ rest) = content :: contents rest := by
  rw [contents, pieces_wrapped isContent]
  rfl

/-- Any text is its trimmed part with white space around. -/
theorem exists_spaces_around (text : List Char) :
    ∃ front back,
      text = front ++ (trimChars text ++ back) ∧
        (∀ c ∈ front, isSpace c = true) ∧
        ∀ c ∈ back, isSpace c = true :=
  (Text.trimmed_trimChars text).around

/-- The only expression of a text in a wrapper that closes only at its end. -/
theorem contents_of_trim
    {text content : List Char}
    (wrapped : trimChars text = Piece.wrap content)
    (isContent : IsContent content) :
    contents text = [content] := by
  obtain ⟨front, back, whole, frontBlank, backBlank⟩ := exists_spaces_around text
  rw [whole, wrapped, contents_spaces_append frontBlank, contents_wrap_append isContent,
    contents_spaces backBlank]

/-! ## What is recorded of a text in a wrapper -/

/-- A text with one expression is listed with that expression. -/
theorem listing_of_contents
    {text : String}
    {content : List Char}
    (only : contents text.toList = [content]) :
    listing [text] = [.ofContent content] := by
  have recorded : Extractor.empty.extract text = ⟨[.ofContent content]⟩ := by
    rw [Extractor.extract, only]
    rfl
  rw [listing, List.foldl_cons, List.foldl_nil, recorded]
  exact List.mergeSort_singleton _

/-- What is recorded as an expression can stand in a wrapper. -/
theorem isContent_of_mem_listing
    {text : String}
    {content : List Char}
    {mapping : Mapping}
    (member : mapping ∈ listing [text])
    (whole : mapping.source.toList = Piece.wrap content) :
    IsContent content := by
  obtain ⟨_, _, found, isFound, rfl⟩ := mem_listing_iff.mp member
  rw [Mapping.source_ofContent] at whole
  obtain rfl : found = content := by
    simpa [Piece.wrap] using whole
  exact Extractor.isContent_of_mem_contents isFound

/--
A text on one line that begins with an opening and ends with a closing, white space
left aside, is recorded as one expression, with what unwrapping leaves as its content,
exactly when no closing ends before the text does.  And unwrapping leaves of a text in
a wrapper what is recorded of an expression with this content.
-/
theorem unwrap_recorded_iff_closesOnlyAtEnd
    (text : String)
    (oneLine : '\n' ∉ text.toList) :
    (opening <+: (Text.trim text).toList →
        closing <:+ (Text.trim text).toList →
        ((∃ envVar, listing [text] = [⟨Text.trim text, envVar, Text.unwrap text⟩]) ↔
          ClosesOnlyAtEnd (Text.trim text).toList)) ∧
      ∀ content,
        (Text.trim text).toList = Piece.wrap content →
        Text.unwrap text = (Mapping.ofContent content).content := by
  have letters : (Text.trim text).toList = trimChars text.toList := by
    rw [Text.trim, String.toList_ofList]
  have unwrapped
      {content : List Char}
      (wrapped : (Text.trim text).toList = Piece.wrap content) :
      Text.unwrap text = (Mapping.ofContent content).content := by
    rw [Text.unwrap, unwrapChars_of_wrap (letters.symm.trans wrapped)]
    rfl
  refine ⟨?_, fun content => unwrapped⟩
  intro begins ends
  obtain ⟨content, wrapped⟩ := exists_eq_wrap begins ends
  have contentLine : '\n' ∉ content := by
    intro member
    obtain ⟨front, back, whole, _⟩ := exists_spaces_around text.toList
    apply oneLine
    rw [whole, ← letters, wrapped]
    simp [Piece.wrap, member]
  rw [wrapped, closesOnlyAtEnd_wrap_iff contentLine]
  constructor
  · rintro ⟨envVar, recorded⟩
    have member : ⟨Text.trim text, envVar, Text.unwrap text⟩ ∈ listing [text] := by
      rw [recorded]
      exact List.mem_singleton_self _
    exact isContent_of_mem_listing member wrapped
  · intro isContent
    have source : Text.trim text = (Mapping.ofContent content).source := by
      rw [← String.toList_inj, wrapped, Mapping.source_ofContent]
    refine ⟨(Mapping.ofContent content).envVar, ?_⟩
    rw [listing_of_contents (contents_of_trim (letters.symm.trans wrapped) isContent),
      unwrapped wrapped, source]

/-- White space around a wrapper and a single brace in it make no difference. -/
theorem unwrap_recorded_iff_closesOnlyAtEnd_of_brace :
    let text := " $\x7b\x7b a\x7d b \x7d\x7d\t"
    '\n' ∉ text.toList ∧
      opening <+: (Text.trim text).toList ∧
      closing <:+ (Text.trim text).toList ∧
      ∃ envVar, listing [text] = [⟨"$\x7b\x7b a\x7d b \x7d\x7d", envVar, "a\x7d b"⟩] := by
  intro text
  have oneLine : '\n' ∉ text.toList := by
    decide
  have trimmed : Text.trim text = "$\x7b\x7b a\x7d b \x7d\x7d" := by
    decide +kernel
  have begins : opening <+: (Text.trim text).toList := by
    rw [trimmed]
    decide
  have ends : closing <:+ (Text.trim text).toList := by
    rw [trimmed]
    decide
  have found : upToClosing? " a\x7d b \x7d\x7d".toList = some (" a\x7d b ".toList, []) := by
    decide
  have onlyAtEnd : ClosesOnlyAtEnd (Text.trim text).toList := by
    rw [trimmed]
    exact (closesOnlyAtEnd_wrap_iff (by decide)).mpr (isContent_of_upToClosing? found)
  refine ⟨oneLine, begins, ends, ?_⟩
  obtain ⟨envVar, recorded⟩ :=
    ((unwrap_recorded_iff_closesOnlyAtEnd text oneLine).1 begins ends).mpr onlyAtEnd
  have left : Text.unwrap text = "a\x7d b" := by
    decide +kernel
  rw [trimmed, left] at recorded
  exact ⟨envVar, recorded⟩

/--
Of two expressions joined by a connective, unwrapping removes the opening of the one and
the closing of the other, while each of them is recorded.
-/
theorem unwrap_removes_outer_ends_of_conjunction :
    let text := "$\x7b\x7b a \x7d\x7d && $\x7b\x7b b \x7d\x7d"
    '\n' ∉ text.toList ∧
      opening <+: (Text.trim text).toList ∧
      closing <:+ (Text.trim text).toList ∧
      Text.unwrap text = "a \x7d\x7d && $\x7b\x7b b" ∧
      listing [text] =
        [⟨"$\x7b\x7b a \x7d\x7d", "GH_AW_A", "a"⟩,
          ⟨"$\x7b\x7b b \x7d\x7d", "GH_AW_B", "b"⟩] ∧
      ¬∃ envVar, listing [text] = [⟨Text.trim text, envVar, Text.unwrap text⟩] := by
  intro text
  have trimmed : Text.trim text = text := by
    decide +kernel
  have state :
      ([text].foldl Extractor.extract .empty).mappings =
        [⟨"$\x7b\x7b a \x7d\x7d", "GH_AW_A", "a"⟩,
          ⟨"$\x7b\x7b b \x7d\x7d", "GH_AW_B", "b"⟩] := by
    decide +kernel
  have listed :
      listing [text] =
        [⟨"$\x7b\x7b a \x7d\x7d", "GH_AW_A", "a"⟩,
          ⟨"$\x7b\x7b b \x7d\x7d", "GH_AW_B", "b"⟩] := by
    refine eq_of_ascending (pairwise_listing _) (by decide +kernel) ?_
    intro mapping
    rw [listing, Extractor.bySource, List.mem_mergeSort, state]
  rw [trimmed, listed]
  refine ⟨by decide, by decide, by decide, by decide +kernel, rfl, ?_⟩
  rintro ⟨envVar, single⟩
  have lengths : 2 = 1 := congrArg List.length single
  contradiction

end WorkflowConditions.Markdown
