import WorkflowConditions.Markdown.Input
import WorkflowConditions.Proofs.Markdown.Reading
import WorkflowConditions.Proofs.Text.Space

namespace WorkflowConditions.Markdown

open Text (after? after?_eq_some_iff opening closing isSpace)

/-!
# References to inputs are filled in one pass

Where the references of a text stand is settled by the text alone.  `Refers` says what
it means to take them from left to right without overlap; a text has exactly one such
division, and `passages` computes it.  Filling goes through the division once, so a
value that looks like a reference is left as it is.
-/

/-- Keys are made of letters, digits, underscores and hyphens. -/
def IsKeyLetter (c : Char) : Prop :=
  ('a' ≤ c ∧ c ≤ 'z') ∨ ('A' ≤ c ∧ c ≤ 'Z') ∨ ('0' ≤ c ∧ c ≤ '9') ∨ c = '_' ∨ c = '-'

/-- A wrapped path to an input, with white space on either side of the path. -/
structure IsReference (key source : List Char) : Prop where
  shape :
    ∃ before after,
      source =
          opening ++
            (before ++ ("github.aw.inputs.".toList ++ (key ++ (after ++ closing)))) ∧
        (∀ c ∈ before, isSpace c = true) ∧
        ∀ c ∈ after, isSpace c = true
  nonempty : key ≠ []
  letters : ∀ c ∈ key, IsKeyLetter c

/-- A text does not begin with a reference. -/
def Unreferenced (text : List Char) : Prop :=
  ∀ key source rest,
    IsReference key source →
    text ≠ source ++ rest

/-- The division of a text at its references, from left to right. -/
inductive Refers : List Char → List Passage → Prop where
  | nil : Refers [] []
  | reference
      {key source rest : List Char}
      {parts : List Passage}
      (isReference : IsReference key source)
      (refers : Refers rest parts) :
      Refers (source ++ rest) (.reference key source :: parts)
  | plain
      {c : Char}
      {rest : List Char}
      {parts : List Passage}
      (unreferenced : Unreferenced (c :: rest))
      (refers : Refers rest parts) :
      Refers (c :: rest) (.plain c :: parts)

namespace Passage

/-- The text of a passage before anything is filled in. -/
def source : Passage → List Char
  | .plain c => [c]
  | .reference _ source => source

/-- The text of a passage when the known keys have the given texts. -/
def filled (text? : String → Option String) : Passage → List Char
  | .plain c => [c]
  | .reference key source => ((text? (String.ofList key)).map String.toList).getD source

/-- Without any input every passage is left as it is. -/
theorem filled_none : filled (fun _ => none) = source := by
  funext passage
  cases passage <;>
    rfl

end Passage

/-! ## A reference at the front -/

theorem inputPath_eq : inputPath = "github.aw.inputs.".toList := by
  decide

/-- The letters of a key are told without the function that tests them. -/
theorem isKeyChar_iff {c : Char} : isKeyChar c = true ↔ IsKeyLetter c := by
  unfold isKeyChar Char.isAlphanum Char.isAlpha Char.isUpper Char.isLower Char.isDigit
  simp only [IsKeyLetter, Bool.or_eq_true, Bool.and_eq_true, decide_eq_true_eq, beq_iff_eq,
    ge_iff_le, Char.le_def, or_assoc]
  rw [or_left_comm]

/-- The codes of key characters lie between those of the hyphen and of `z`. -/
theorem IsKeyLetter.code
    {c : Char}
    (letter : IsKeyLetter c) :
    45 ≤ c.toNat ∧ c.toNat ≤ 122 := by
  simp only [IsKeyLetter, Char.le_def, UInt32.le_iff_toNat_le, Char.reduceToNat,
    Char.toNat_val] at letter
  rcases letter with lower | upper | digit | rfl | rfl
  · omega
  · omega
  · omega
  · decide
  · decide

/-- White space ends a key. -/
theorem isKeyChar_of_isSpace
    {c : Char}
    (space : isSpace c = true) :
    isKeyChar c = false := by
  cases keyed : isKeyChar c with
  | false =>
      rfl
  | true =>
      have code := (isKeyChar_iff.mp keyed).code
      simp only [isSpace, Bool.or_eq_true, Bool.and_eq_true, decide_eq_true_eq,
        beq_iff_eq] at space
      omega

/-- A reference at the front of a text is found, whatever follows it. -/
theorem reference?_of_isReference
    {key source : List Char}
    (isReference : IsReference key source)
    (rest : List Char) :
    reference? (source ++ rest) = some (key, rest) := by
  obtain ⟨⟨before, after, rfl, beforeBlank, afterBlank⟩, nonempty, letters⟩ := isReference
  rw [← inputPath_eq]
  have keyed : ∀ c ∈ key, isKeyChar c = true :=
    fun c member => isKeyChar_iff.mpr (letters c member)
  have opened :
      after? opening
          (opening ++ (before ++ (inputPath ++ (key ++ (after ++ closing)))) ++ rest) =
        some (before ++ (inputPath ++ (key ++ (after ++ (closing ++ rest))))) :=
    after?_eq_some_iff.mpr (by simp)
  have toPath :
      (before ++ (inputPath ++ (key ++ (after ++ (closing ++ rest))))).dropWhile isSpace =
        inputPath ++ (key ++ (after ++ (closing ++ rest))) := by
    refine ListFacts.dropWhile_append_of_stop beforeBlank ?_
    intro c first
    cases first
    decide
  have named :
      after? inputPath (inputPath ++ (key ++ (after ++ (closing ++ rest)))) =
        some (key ++ (after ++ (closing ++ rest))) :=
    after?_eq_some_iff.mpr rfl
  have keyEnds :
      ∀ c ∈ (after ++ (closing ++ rest)).head?, isKeyChar c = false := by
    intro c first
    cases after with
    | nil =>
        cases first
        decide
    | cons blank others =>
        cases first
        exact isKeyChar_of_isSpace (afterBlank _ (by simp))
  have toClosing : (after ++ (closing ++ rest)).dropWhile isSpace = closing ++ rest := by
    refine ListFacts.dropWhile_append_of_stop afterBlank ?_
    intro c first
    cases first
    decide
  have closed : after? closing (closing ++ rest) = some rest :=
    after?_eq_some_iff.mpr rfl
  have keyTaken := ListFacts.takeWhile_append_of_stop keyed keyEnds
  have keyDropped := ListFacts.dropWhile_append_of_stop keyed keyEnds
  simp only [reference?, opened, toPath, named, keyTaken, keyDropped, toClosing, closed]
  simp [nonempty]

/-- The parts at which a text is cut on the way to its key and its rest. -/
theorem eq_reference_append
    {text inner path rest : List Char}
    (opened : text = opening ++ inner)
    (named : inner.dropWhile isSpace = inputPath ++ path)
    (closed : (path.dropWhile isKeyChar).dropWhile isSpace = closing ++ rest) :
    text =
      opening ++
          (inner.takeWhile isSpace ++
            (inputPath ++
              (path.takeWhile isKeyChar ++
                ((path.dropWhile isKeyChar).takeWhile isSpace ++ closing)))) ++
        rest := by
  have ending :
      path =
        path.takeWhile isKeyChar ++
          ((path.dropWhile isKeyChar).takeWhile isSpace ++ (closing ++ rest)) := by
    rw [← closed, List.takeWhile_append_dropWhile, List.takeWhile_append_dropWhile]
  have start : inner = inner.takeWhile isSpace ++ (inputPath ++ path) := by
    rw [← named, List.takeWhile_append_dropWhile]
  calc
    text = opening ++ (inner.takeWhile isSpace ++ (inputPath ++ path)) := by
      rw [opened, ← start]
    _ =
        opening ++
          (inner.takeWhile isSpace ++
            (inputPath ++
              (path.takeWhile isKeyChar ++
                ((path.dropWhile isKeyChar).takeWhile isSpace ++ (closing ++ rest))))) := by
      rw [← ending]
    _ = _ := by
      simp only [List.append_assoc]

/-- What is found at the front of a text is a reference. -/
theorem exists_isReference_of_reference?
    {text key rest : List Char}
    (found : reference? text = some (key, rest)) :
    ∃ source, IsReference key source ∧ text = source ++ rest := by
  unfold reference? at found
  split at found
  · cases found
  · next inner opened =>
      split at found
      · cases found
      · next path named =>
          split at found
          · cases found
          · next later closed =>
              dsimp only at found
              split at found
              · cases found
              · next nonempty =>
                  cases found
                  have whole :=
                    eq_reference_append (after?_eq_some_iff.mp opened)
                      (after?_eq_some_iff.mp named) (after?_eq_some_iff.mp closed)
                  rw [inputPath_eq] at whole
                  refine ⟨_, ⟨⟨_, _, rfl, ?_, ?_⟩, ?_, ?_⟩, whole⟩
                  · exact List.all_eq_true.mp List.all_takeWhile
                  · exact List.all_eq_true.mp List.all_takeWhile
                  · exact fun empty => nonempty (List.isEmpty_iff.mpr empty)
                  · intro c member
                    exact isKeyChar_iff.mp (List.all_eq_true.mp List.all_takeWhile c member)

/-- A reference is found exactly where one stands. -/
theorem reference?_eq_some_iff
    {text key rest : List Char} :
    reference? text = some (key, rest) ↔
      ∃ source, IsReference key source ∧ text = source ++ rest := by
  constructor
  · exact exists_isReference_of_reference?
  · rintro ⟨source, isReference, rfl⟩
    exact reference?_of_isReference isReference rest

/-- Nothing is found exactly where no reference stands. -/
theorem reference?_eq_none_iff
    {text : List Char} :
    reference? text = none ↔ Unreferenced text := by
  rw [Option.eq_none_iff_forall_ne_some]
  constructor
  · rintro none key source rest isReference rfl
    exact none (key, rest) (reference?_of_isReference isReference rest)
  · rintro unreferenced ⟨key, rest⟩ found
    obtain ⟨source, isReference, whole⟩ := reference?_eq_some_iff.mp found
    exact unreferenced key source rest isReference whole

/-! ## The only division of a text -/

/-- A reference is one passage. -/
theorem passages_reference
    {key source : List Char}
    (isReference : IsReference key source)
    (rest : List Char) :
    passages (source ++ rest) = .reference key source :: passages rest := by
  have located := reference?_of_isReference isReference rest
  cases source with
  | nil =>
      obtain ⟨before, after, shape, _⟩ := isReference.shape
      cases shape
  | cons c others =>
      have taken :
          (c :: (others ++ rest)).take ((c :: (others ++ rest)).length - rest.length) =
            c :: others := by
        rw [← List.cons_append, List.length_append, Nat.add_sub_cancel, List.take_left]
      rw [List.cons_append] at located ⊢
      rw [passages]
      split
      · next found =>
          rw [located] at found
          cases found
          rw [taken]
      · next none =>
          rw [located] at none
          cases none

/-- A character at which no reference begins is a passage of its own. -/
theorem passages_plain
    {c : Char}
    {rest : List Char}
    (unreferenced : Unreferenced (c :: rest)) :
    passages (c :: rest) = .plain c :: passages rest := by
  have located := reference?_eq_none_iff.mpr unreferenced
  rw [passages]
  split
  · next found =>
      rw [located] at found
      cases found
  · rfl

/-- The passages of a text are those that the grammar of references gives it. -/
theorem refers_passages (text : List Char) : Refers text (passages text) := by
  induction length : text.length using Nat.strongRecOn generalizing text with
  | ind size inductionHypothesis =>
      subst length
      cases text with
      | nil =>
          rw [passages]
          exact .nil
      | cons c rest =>
          cases found : reference? (c :: rest) with
          | none =>
              have unreferenced := reference?_eq_none_iff.mp found
              rw [passages_plain unreferenced]
              exact .plain unreferenced
                (inductionHypothesis rest.length (by simp) rest rfl)
          | some located =>
              rcases located with ⟨key, after⟩
              obtain ⟨source, isReference, whole⟩ := reference?_eq_some_iff.mp found
              have shorter := length_lt_of_reference? found
              rw [whole, passages_reference isReference]
              exact .reference isReference
                (inductionHypothesis after.length shorter after rfl)

/-- A text has exactly one division. -/
theorem refers_iff
    {text : List Char}
    {parts : List Passage} :
    Refers text parts ↔ parts = passages text := by
  constructor
  · intro refers
    induction refers with
    | nil =>
        rw [passages]
    | reference isReference _ inductionHypothesis =>
        rw [passages_reference isReference, inductionHypothesis]
    | plain unreferenced _ inductionHypothesis =>
        rw [passages_plain unreferenced, inductionHypothesis]
  · rintro rfl
    exact refers_passages text

/-- The passages of a text make up the text. -/
theorem Refers.text_eq
    {text : List Char}
    {parts : List Passage}
    (refers : Refers text parts) :
    text = parts.flatMap Passage.source := by
  induction refers with
  | nil =>
      rfl
  | reference _ _ inductionHypothesis =>
      rw [List.flatMap_cons, ← inductionHypothesis]
      rfl
  | plain _ _ inductionHypothesis =>
      rw [List.flatMap_cons, ← inductionHypothesis]
      rfl

/-! ## Filling -/

/-- The text of an input that is there. -/
def inputText?
    (inputs : Value.Fields)
    (key : String) :
    Option String :=
  (inputs.get? key).map inputText

theorem fillPassage_eq_filled (inputs : Value.Fields) :
    fillPassage inputs = Passage.filled (inputText? inputs) := by
  funext passage
  cases passage with
  | plain c =>
      rfl
  | reference key source =>
      rw [fillPassage, Passage.filled, inputText?]
      cases inputs.get? (String.ofList key) <;>
        rfl

/-- Substitution fills the passages one by one. -/
theorem toList_substitute
    (content : String)
    (inputs : Value.Fields) :
    (substitute content inputs).toList =
      (passages content.toList).flatMap (Passage.filled (inputText? inputs)) := by
  rw [substitute, String.toList_ofList, fillPassage_eq_filled]

/--
Every text has one division, whatever the inputs, into plain characters and the
references that stand in it from left to right.  For all inputs, filling replaces each
reference by the text of its value where the key is known and keeps everything else;
without inputs nothing changes.
-/
theorem substitute_fills_division (content : String) :
    ∃ parts,
      (∀ other, Refers content.toList other ↔ other = parts) ∧
        content.toList = parts.flatMap Passage.source ∧
        (∀ inputs,
          (substitute content inputs).toList =
            parts.flatMap (Passage.filled (inputText? inputs))) ∧
        substitute content [] = content := by
  have refers := refers_passages content.toList
  refine ⟨passages content.toList, fun _ => refers_iff, refers.text_eq,
    toList_substitute content, String.toList_inj.mp ?_⟩
  calc
    (substitute content []).toList =
        (passages content.toList).flatMap (Passage.filled (fun _ => none)) :=
      toList_substitute content []
    _ = content.toList := by
      rw [Passage.filled_none, ← refers.text_eq]

-- A value that completes the reference around it: the result is not read again.
example :
    substitute
        "$\x7b\x7b github.aw.inputs.$\x7b\x7b github.aw.inputs.a \x7d\x7d \x7d\x7d"
        [("a", .text "b"), ("b", .text "c")] =
      "$\x7b\x7b github.aw.inputs.b \x7d\x7d" := by
  decide +kernel

end WorkflowConditions.Markdown
