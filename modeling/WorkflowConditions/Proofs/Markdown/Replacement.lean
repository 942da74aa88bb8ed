import WorkflowConditions.Markdown.Extractor
import WorkflowConditions.Proofs.Markdown.Reading

namespace WorkflowConditions.Markdown

open Text (opening closing replaceAll replaceAll_cons_of_absent replaceAll_append_self
  replaceAll_append_of_absent)

/-!
# Replacing expressions one after another

Replacement goes through the recorded expressions one by one, the longest first,
each time over the whole text.  In between, the text is the reading of the markdown
with some of its expressions replaced.  An expression that is looked for can then
only be found where the reading has it: inside another one it would be shorter than
that one, which is gone by then, and a placeholder neither begins an expression nor
closes one.  So the whole replacement is one simultaneous substitution.
-/

namespace Piece

/-- A piece as it stands in the text in which every expression is replaced. -/
def substituted : Piece → List Char
  | .plain c => [c]
  | .wrapped content =>
      ("__" ++ variableName (Text.trimChars content) ++ "__").toList

/-- A piece as it stands in a text in which some expressions are replaced. -/
def shown (done : List Char → Bool) : Piece → List Char
  | .plain c => [c]
  | .wrapped content =>
      if done content then substituted (.wrapped content) else wrap content

end Piece

/-- A text in which some expressions are replaced. -/
def shownAll
    (done : List Char → Bool)
    (parts : List Piece) :
    List Char :=
  parts.flatMap (Piece.shown done)

/-! ## Placeholders -/

/-- Only letters become capital letters. -/
theorem eq_of_toUpper_eq
    {c d : Char}
    (same : c.toUpper = d)
    (noCapital : d.isUpper = false) :
    c = d := by
  unfold Char.toUpper at same
  unfold Char.isUpper at noCapital
  split at same
  · next lower =>
      have atLeast : 97 ≤ c.val.toNat := UInt32.le_iff_toNat_le.mp lower.1
      have atMost : c.val.toNat ≤ 122 := UInt32.le_iff_toNat_le.mp lower.2
      have code := congrArg (fun e : Char => e.val.toNat) same
      simp [UInt32.le_iff_toNat_le] at noCapital atLeast atMost code
      omega
  · exact same

/-- No letter becomes a dollar sign in upper case. -/
private theorem toUpper_ne_dollar
    {c : Char}
    (other : c ≠ '$') :
    c.toUpper ≠ '$' := by
  intro same
  exact other (eq_of_toUpper_eq same (by decide))

/-- Digits to any base are no dollar signs. -/
private theorem dollar_notMem_toDigitsCore
    (base fuel n : Nat)
    {digits : List Char}
    (absent : '$' ∉ digits) :
    '$' ∉ Nat.toDigitsCore base fuel n digits := by
  have digit (k : Nat) : Nat.digitChar k ≠ '$' := by
    grind [Nat.digitChar]
  induction fuel generalizing n digits with
  | zero =>
      exact absent
  | succ fuel inductionHypothesis =>
      have more : '$' ∉ Nat.digitChar (n % base) :: digits := by
        simp only [List.mem_cons, not_or]
        exact ⟨Ne.symm (digit _), absent⟩
      rw [Nat.toDigitsCore]
      split
      · exact more
      · exact inductionHypothesis _ more

private theorem dollar_notMem_map_toUpper
    {letters : List Char}
    (absent : '$' ∉ letters) :
    '$' ∉ letters.map Char.toUpper := by
  intro member
  obtain ⟨c, inLetters, same⟩ := List.mem_map.mp member
  have other : c ≠ '$' := by
    rintro rfl
    exact absent inLetters
  exact toUpper_ne_dollar other same

/-- A fingerprint consists of hexadecimal digits. -/
private theorem dollar_notMem_fingerprint (text : String) :
    '$' ∉ (Digest.fingerprint text).toList := by
  rw [Digest.fingerprint, Digest.hexWord, String.toList_ofList]
  apply dollar_notMem_map_toUpper
  rw [List.mem_append, not_or]
  constructor
  · simp [List.mem_replicate]
  · exact dollar_notMem_toDigitsCore _ _ _ (by simp)

/-- A chain of names has letters, digits, underscores and points only. -/
private theorem dollar_notMem_of_continuesChain
    {fresh : Bool}
    {chain : List Char}
    (continues : continuesChain fresh chain = true) :
    '$' ∉ chain := by
  induction chain generalizing fresh with
  | nil =>
      simp
  | cons c rest inductionHypothesis =>
      rw [List.mem_cons, not_or]
      cases fresh with
      | true =>
          simp only [continuesChain, Bool.and_eq_true] at continues
          refine ⟨?_, inductionHypothesis continues.2⟩
          rintro rfl
          simp [startsName] at continues
      | false =>
          simp only [continuesChain] at continues
          split at continues
          · next isDot =>
              refine ⟨?_, inductionHypothesis continues⟩
              simp [isDot]
          · rw [Bool.and_eq_true] at continues
            refine ⟨?_, inductionHypothesis continues.2⟩
            rintro rfl
            simp [continuesName] at continues

private theorem dollar_notMem_chainName
    {chain : List Char}
    (absent : '$' ∉ chain) :
    '$' ∉ (chainName chain).toList := by
  rw [chainName, String.toList_ofList]
  intro member
  obtain ⟨c, inChain, same⟩ := List.mem_map.mp member
  split at same
  · cases same
  · have other : c ≠ '$' := by
      rintro rfl
      exact absent inChain
    exact toUpper_ne_dollar other same

/-- The name of a variable has no dollar sign, so no placeholder begins an expression. -/
theorem dollar_notMem_variableName (content : List Char) :
    '$' ∉ (variableName content).toList := by
  rw [variableName, String.toList_append, List.mem_append, not_or]
  constructor
  · decide
  · split
    · next isChain =>
        exact dollar_notMem_chainName (dollar_notMem_of_continuesChain isChain)
    · rw [String.toList_append, List.mem_append, not_or]
      exact ⟨by decide, dollar_notMem_fingerprint _⟩

/-- No expression begins inside a placeholder. -/
theorem dollar_notMem_substituted (content : List Char) :
    '$' ∉ Piece.substituted (.wrapped content) := by
  have name := dollar_notMem_variableName (Text.trimChars content)
  simpa [Piece.substituted] using name

/-- An expression or its placeholder begins with a dollar sign or an underscore. -/
theorem head?_shown_wrapped
    (done : List Char → Bool)
    (content : List Char) :
    (Piece.shown done (.wrapped content)).head? = some '$' ∨
      (Piece.shown done (.wrapped content)).head? = some '_' := by
  cases isDone : done content with
  | true =>
      right
      simp [Piece.shown, isDone, Piece.substituted]
  | false =>
      left
      simp [Piece.shown, isDone, Piece.wrap, opening]

/-! ## What a partly replaced text keeps of the markdown -/

section Shown

variable
  {done : List Char → Bool}
  {text : List Char}
  {parts : List Piece}

theorem shownAll_wrapped
    (content : List Char) :
    shownAll done (.wrapped content :: parts) =
      Piece.shown done (.wrapped content) ++ shownAll done parts :=
  rfl

theorem shownAll_plain
    (c : Char) :
    shownAll done (.plain c :: parts) = c :: shownAll done parts :=
  rfl

/-- A reading takes the text apart without losing anything. -/
theorem Reads.text_eq
    (reads : Reads text parts) :
    text = shownAll (fun _ => false) parts := by
  induction reads with
  | nil =>
      rfl
  | wrapped _ _ inductionHypothesis =>
      rw [shownAll_wrapped, ← inductionHypothesis]
      rfl
  | plain _ _ inductionHypothesis =>
      rw [shownAll_plain, ← inductionHypothesis]

/-- A brace at the front stands at the front of the markdown too. -/
theorem Reads.exists_of_shownAll_eq_cons
    (reads : Reads text parts)
    {c : Char}
    {rest : List Char}
    (noDollar : c ≠ '$')
    (noUnderscore : c ≠ '_')
    (shape : shownAll done parts = c :: rest) :
    ∃ textRest partsRest,
      text = c :: textRest ∧
        Reads textRest partsRest ∧
        shownAll done partsRest = rest := by
  cases reads with
  | nil =>
      cases shape
  | @wrapped content _ _ _ _ =>
      rw [shownAll_wrapped] at shape
      rcases head?_shown_wrapped done content with isDollar | isUnderscore
      · obtain ⟨others, starts⟩ := List.head?_eq_some_iff.mp isDollar
        rw [starts] at shape
        exact (noDollar (List.cons.inj shape).1.symm).elim
      · obtain ⟨others, starts⟩ := List.head?_eq_some_iff.mp isUnderscore
        rw [starts] at shape
        exact (noUnderscore (List.cons.inj shape).1.symm).elim
  | plain _ reads =>
      rw [shownAll_plain] at shape
      obtain ⟨rfl, rfl⟩ := List.cons.inj shape
      exact ⟨_, _, rfl, reads, rfl⟩

/-- A closing on the first line is there in the markdown, if not at the same place. -/
theorem Reads.exists_closing
    (reads : Reads text parts)
    {line rest : List Char}
    (oneLine : '\n' ∉ line)
    (shape : shownAll done parts = line ++ (closing ++ rest)) :
    ∃ textLine textRest,
      text = textLine ++ (closing ++ textRest) ∧ '\n' ∉ textLine := by
  induction reads generalizing line with
  | nil =>
      simp [shownAll, closing] at shape
  | @wrapped content after _ isContent _ _ =>
      refine ⟨opening ++ content, after, ?_, ?_⟩
      · simp [wrap_append]
      · simpa [opening] using isContent.oneLine
  | @plain c after _ _ reads inductionHypothesis =>
      rw [shownAll_plain] at shape
      cases line with
      | nil =>
          obtain ⟨isBrace, later⟩ := List.cons.inj shape
          obtain ⟨textRest, _, rfl, _, _⟩ :=
            reads.exists_of_shownAll_eq_cons (by decide) (by decide) later
          exact ⟨[], textRest, by simp [isBrace, closing], by simp⟩
      | cons d line =>
          obtain ⟨rfl, later⟩ := List.cons.inj shape
          simp only [List.mem_cons, not_or] at oneLine
          obtain ⟨textLine, textRest, rfl, textOneLine⟩ :=
            inductionHypothesis oneLine.2 later
          refine ⟨c :: textLine, textRest, rfl, ?_⟩
          simp only [List.mem_cons, not_or]
          exact ⟨oneLine.1, textOneLine⟩

/-- Where the markdown has no expression, no replacement creates one. -/
theorem unwrapped_shownAll
    {c : Char}
    (unwrapped : Unwrapped (c :: text))
    (reads : Reads text parts) :
    Unwrapped (c :: shownAll done parts) := by
  intro content rest oneLine shape
  rw [wrap_append, opening] at shape
  obtain ⟨rfl, firstBrace⟩ := List.cons.inj shape
  obtain ⟨afterFirst, _, rfl, readsAfterFirst, secondBrace⟩ :=
    reads.exists_of_shownAll_eq_cons (by decide) (by decide) firstBrace
  obtain ⟨afterSecond, _, rfl, readsAfterSecond, inner⟩ :=
    readsAfterFirst.exists_of_shownAll_eq_cons (by decide) (by decide) secondBrace
  obtain ⟨line, after, rfl, lineOneLine⟩ :=
    readsAfterSecond.exists_closing oneLine inner
  exact unwrapped line after lineOneLine (by rw [wrap_append, opening]; rfl)

end Shown

/-! ## One expression at a time -/

/-- No expression begins inside a text without a dollar sign. -/
theorem not_wrap_prefix_of_dollar_notMem
    (content : List Char)
    {front : List Char}
    (rest : List Char)
    (absent : '$' ∉ front) :
    ∀ suffix,
      suffix <:+ front →
      suffix ≠ [] →
      ¬Piece.wrap content <+: suffix ++ rest := by
  rintro suffix isSuffix nonempty ⟨after, whole⟩
  cases suffix with
  | nil =>
      exact nonempty rfl
  | cons c others =>
      obtain rfl : '$' = c := (List.cons.inj whole).1
      exact absent (isSuffix.subset (by simp))

/-- A dollar sign behind the first one of a wrapper stands in its content. -/
private theorem exists_inner_of_suffix_wrap
    {front suffix inner : List Char}
    (split : front ++ suffix = opening ++ inner)
    (inside : front ≠ [])
    (dollar : suffix.head? = some '$') :
    ∃ before, inner = before ++ suffix := by
  obtain ⟨others, rfl⟩ := List.head?_eq_some_iff.mp dollar
  match front with
  | [] =>
      exact (inside rfl).elim
  | [_] | [_, _] =>
      simp [opening] at split
  | _ :: _ :: _ :: before =>
      exact ⟨before, by simp_all [opening]⟩

/-- A closing has no brace of an opening in common. -/
theorem exists_inner_of_opening
    {front inner rest : List Char}
    (split : opening ++ inner = front ++ (closing ++ rest)) :
    ∃ after, front = opening ++ after ∧ inner = after ++ (closing ++ rest) := by
  match front with
  | [] | [_] | [_, _] =>
      simp [opening, closing] at split
  | first :: second :: third :: after =>
      obtain ⟨rfl, rfl, rfl, rfl⟩ :
          '$' = first ∧ '\x7b' = second ∧ '\x7b' = third ∧
            inner = after ++ (closing ++ rest) := by
        simpa [opening] using split
      exact ⟨after, rfl, rfl⟩

/-- An expression found inside another one is shorter than that one. -/
theorem not_wrap_prefix_of_length_le
    {content sought : List Char}
    (isContent : IsContent content)
    (isSought : IsContent sought)
    (different : content ≠ sought)
    (noLonger : content.length ≤ sought.length)
    (rest : List Char) :
    ∀ suffix,
      suffix <:+ Piece.wrap content →
      suffix ≠ [] →
      ¬Piece.wrap sought <+: suffix ++ rest := by
  rintro suffix ⟨front, split⟩ nonempty ⟨after, whole⟩
  rw [wrap_append] at whole
  by_cases atFront : front = []
  · subst atFront
    rw [List.nil_append] at split
    rw [split, wrap_append, List.append_cancel_left_eq] at whole
    exact different (isContent.unique isSought whole.symm)
  · have dollar : suffix.head? = some '$' := by
      cases suffix with
      | nil =>
          exact (nonempty rfl).elim
      | cons c others =>
          rw [← (List.cons.inj whole).1]
          rfl
    rw [← List.append_nil (Piece.wrap content), wrap_append, List.append_nil] at split
    obtain ⟨before, inContent⟩ := exists_inner_of_suffix_wrap split atFront dollar
    rcases List.append_eq_append_iff.mp inContent with
      ⟨middle, _, inClosing⟩ | ⟨middle, shape, isSuffix⟩
    · -- The suffix lies in the closing, which has no dollar sign.
      have member : '$' ∈ closing := by
        rw [inClosing]
        exact List.mem_append_right _ (List.mem_of_mem_head? dollar)
      revert member
      decide
    · rw [isSuffix, List.append_assoc] at whole
      obtain ⟨inner, rfl, sameInner⟩ := exists_inner_of_opening whole
      rw [shape] at isContent
      have isInner : IsContent inner :=
        (isContent.of_append).of_append
      obtain rfl := isSought.unique isInner sameInner
      rw [shape] at noLonger
      simp [opening] at noLonger
      omega

/--
Replacing one expression replaces exactly its places in the reading, provided that
all longer expressions have been replaced before.
-/
theorem replaceAll_shownAll
    {done : List Char → Bool}
    {text : List Char}
    {parts : List Piece}
    {sought : List Char}
    (reads : Reads text parts)
    (isSought : IsContent sought)
    (longerDone :
      ∀ content,
        .wrapped content ∈ parts →
        sought.length < content.length →
        done content = true) :
    replaceAll (Piece.wrap sought) (Piece.substituted (.wrapped sought))
        (shownAll done parts) =
      shownAll (fun content => done content || content == sought) parts := by
  induction reads with
  | nil =>
      simp [shownAll]
  | @plain c rest parts unwrapped reads inductionHypothesis =>
      have later :=
        inductionHypothesis
          (fun content member => longerDone content (by simp [member]))
      have absent : ¬Piece.wrap sought <+: c :: shownAll done parts := by
        rintro ⟨after, whole⟩
        exact unwrapped_shownAll unwrapped reads sought after isSought.oneLine
          whole.symm
      rw [shownAll_plain, shownAll_plain,
        replaceAll_cons_of_absent _ absent, later]
  | @wrapped content rest parts isContent reads inductionHypothesis =>
      have later :=
        inductionHypothesis
          (fun content member => longerDone content (by simp [member]))
      rw [shownAll_wrapped, shownAll_wrapped, ← later]
      cases isDone : done content with
      | true =>
          have absent := dollar_notMem_substituted content
          simp only [Piece.shown, isDone, Bool.true_or, if_true]
          exact replaceAll_append_of_absent _
            (not_wrap_prefix_of_dollar_notMem sought _ absent)
      | false =>
          by_cases same : content = sought
          · subst same
            simp only [Piece.shown, isDone, beq_self_eq_true, Bool.or_true,
              if_true, Bool.false_eq_true, if_false]
            exact replaceAll_append_self _ (by simp [Piece.wrap, opening]) _
          · have noLonger : content.length ≤ sought.length := by
              apply Nat.le_of_not_lt
              intro longer
              have already := longerDone content (by simp) longer
              rw [isDone] at already
              cases already
            simp only [Piece.shown, isDone, beq_eq_false_iff_ne.mpr same,
              Bool.or_false, Bool.false_eq_true, if_false]
            exact replaceAll_append_of_absent _
              (not_wrap_prefix_of_length_le isContent isSought same noLonger _)

/-! ## All recorded expressions -/

/-- The source of an expression is its wrapped content. -/
theorem Mapping.source_ofContent (content : List Char) :
    (Mapping.ofContent content).source.toList = Piece.wrap content := by
  simp [Mapping.ofContent]

theorem Mapping.placeholder_ofContent (content : List Char) :
    (Mapping.ofContent content).placeholder.toList =
      Piece.substituted (.wrapped content) :=
  rfl

/-- Different contents have different sources. -/
theorem Mapping.eq_of_source_eq
    {first second : List Char}
    (same :
      (Mapping.ofContent first).source = (Mapping.ofContent second).source) :
    first = second := by
  have letters := congrArg String.toList same
  rw [source_ofContent, source_ofContent] at letters
  simpa [Piece.wrap] using letters

/-- A wrapper adds five characters. -/
theorem Mapping.length_source_ofContent (content : List Char) :
    (Mapping.ofContent content).source.length = content.length + 5 := by
  rw [← String.length_toList, source_ofContent]
  simp [Piece.wrap, opening, closing]

/--
Going through mappings from the longest to the shortest, with every expression of
the text among them or replaced before, replaces all of them.
-/
theorem foldl_replaceAll
    {text : List Char}
    {parts : List Piece}
    (reads : Reads text parts)
    {done : List Char → Bool}
    {mappings : List Mapping}
    (recorded :
      ∀ mapping ∈ mappings,
        ∃ content, IsContent content ∧ mapping = .ofContent content)
    (descending :
      mappings.Pairwise
        (fun first second => second.source.length ≤ first.source.length))
    (covered :
      ∀ content,
        .wrapped content ∈ parts →
        done content = true ∨ Mapping.ofContent content ∈ mappings) :
    mappings.foldl
        (fun text mapping =>
          replaceAll mapping.source.toList mapping.placeholder.toList text)
        (shownAll done parts) =
      parts.flatMap Piece.substituted := by
  induction mappings generalizing done with
  | nil =>
      rw [List.foldl_nil, shownAll, List.flatMap_def, List.flatMap_def]
      congr 1
      apply List.map_congr_left
      intro piece member
      cases piece with
      | plain c =>
          rfl
      | wrapped content =>
          have isDone : done content = true := by
            simpa using covered content member
          simp [Piece.shown, isDone]
  | cons mapping others inductionHypothesis =>
      obtain ⟨sought, isSought, rfl⟩ := recorded mapping (by simp)
      rw [List.pairwise_cons] at descending
      have longerDone :
          ∀ content,
            .wrapped content ∈ parts →
            sought.length < content.length →
            done content = true := by
        intro content member longer
        rcases covered content member with isDone | isRecorded
        · exact isDone
        · exfalso
          rcases List.mem_cons.mp isRecorded with isHead | inOthers
          · have same := Mapping.eq_of_source_eq (congrArg Mapping.source isHead)
            rw [same] at longer
            exact Nat.lt_irrefl _ longer
          · have shorter := descending.1 _ inOthers
            rw [Mapping.length_source_ofContent, Mapping.length_source_ofContent]
              at shorter
            omega
      rw [List.foldl_cons, Mapping.source_ofContent, Mapping.placeholder_ofContent,
        replaceAll_shownAll reads isSought longerDone]
      apply inductionHypothesis
      · intro mapping member
        exact recorded mapping (by simp [member])
      · exact descending.2
      · intro content member
        rcases covered content member with isDone | isRecorded
        · left
          simp [isDone]
        · rcases List.mem_cons.mp isRecorded with isHead | inOthers
          · left
            simp [Mapping.eq_of_source_eq (congrArg Mapping.source isHead)]
          · exact .inr inOthers

namespace Extractor

/-- Every recorded mapping is that of a content. -/
def Sound (extractor : Extractor) : Prop :=
  ∀ mapping ∈ extractor.mappings,
    ∃ content, IsContent content ∧ mapping = .ofContent content

theorem sound_empty : empty.Sound := by
  simp [Sound, empty]

/-- Recording an expression keeps the record sound. -/
theorem Sound.record
    {extractor : Extractor}
    (sound : extractor.Sound)
    {content : List Char}
    (isContent : IsContent content) :
    (extractor.record (.ofContent content)).Sound := by
  unfold Extractor.record
  split
  · exact sound
  · intro mapping member
    rcases List.mem_append.mp member with known | isNew
    · exact sound mapping known
    · exact ⟨content, isContent, List.mem_singleton.mp isNew⟩

/-- Nothing is dropped from a record. -/
theorem mem_record_of_mem
    {extractor : Extractor}
    {mapping : Mapping}
    (known : mapping ∈ extractor.mappings)
    (other : Mapping) :
    mapping ∈ (extractor.record other).mappings := by
  unfold record
  split
  · exact known
  · exact List.mem_append_left _ known

/-- A recorded expression is in the record, new or known. -/
theorem Sound.mem_record
    {extractor : Extractor}
    (sound : extractor.Sound)
    (content : List Char) :
    .ofContent content ∈ (extractor.record (.ofContent content)).mappings := by
  unfold Extractor.record
  split
  · next known =>
      obtain ⟨mapping, member, same⟩ := List.any_eq_true.mp known
      obtain ⟨other, _, rfl⟩ := sound mapping member
      rw [← Mapping.eq_of_source_eq (beq_iff_eq.mp same)]
      exact member
  · simp

/-- What recording several contents keeps and adds. -/
theorem Sound.foldl_record
    {extractor : Extractor}
    (sound : extractor.Sound)
    {found : List (List Char)}
    (areContents : ∀ content ∈ found, IsContent content) :
    let final :=
      found.foldl (fun known content => known.record (.ofContent content)) extractor
    final.Sound ∧
      (∀ mapping ∈ extractor.mappings, mapping ∈ final.mappings) ∧
      ∀ content ∈ found, .ofContent content ∈ final.mappings := by
  induction found generalizing extractor with
  | nil =>
      exact ⟨sound, fun _ member => member, by simp⟩
  | cons content others inductionHypothesis =>
      have isContent := areContents content (by simp)
      obtain ⟨finalSound, kept, added⟩ :=
        inductionHypothesis (sound.record isContent)
          (fun item member => areContents item (by simp [member]))
      refine ⟨finalSound, ?_, ?_⟩
      · intro mapping member
        exact kept mapping (mem_record_of_mem member _)
      · intro item member
        rcases List.mem_cons.mp member with rfl | inOthers
        · exact kept _ (sound.mem_record item)
        · exact added item inOthers

/-- What is found in a text is a content. -/
theorem isContent_of_mem_contents
    {text content : List Char}
    (member : content ∈ contents text) :
    IsContent content :=
  (reads_pieces text).isContent (mem_contents_iff.mp member)

/-- Extraction keeps the record sound. -/
theorem Sound.extract
    {extractor : Extractor}
    (sound : extractor.Sound)
    (markdown : String) :
    (extractor.extract markdown).Sound :=
  (sound.foldl_record fun _ => isContent_of_mem_contents).1

/-- Extraction records every expression of the text. -/
theorem Sound.mem_extract
    {extractor : Extractor}
    (sound : extractor.Sound)
    {markdown : String}
    {content : List Char}
    (member : content ∈ contents markdown.toList) :
    .ofContent content ∈ (extractor.extract markdown).mappings :=
  (sound.foldl_record fun _ => isContent_of_mem_contents).2.2 content member

/-- Every state reached by extraction is sound. -/
theorem sound_foldl_extract
    {extractor : Extractor}
    (sound : extractor.Sound)
    (documents : List String) :
    (documents.foldl Extractor.extract extractor).Sound := by
  induction documents generalizing extractor with
  | nil =>
      exact sound
  | cons document others inductionHypothesis =>
      exact inductionHypothesis (sound.extract document)

/-- Longer sources are replaced before shorter ones. -/
theorem pairwise_byLength (extractor : Extractor) :
    extractor.byLength.Pairwise
      (fun first second => second.source.length ≤ first.source.length) := by
  have sorted :=
    @List.pairwise_mergeSort Mapping
      (fun first second => decide (second.source.length ≤ first.source.length))
      (by simp only [decide_eq_true_eq]; omega)
      (by simp only [Bool.or_eq_true, decide_eq_true_eq]; omega)
      extractor.mappings
  simpa [byLength] using sorted

/-- Replacing recorded expressions is substituting in the reading of the text. -/
theorem Sound.replace_eq
    {extractor : Extractor}
    (sound : extractor.Sound)
    {markdown : String}
    (known :
      ∀ content ∈ contents markdown.toList,
        Mapping.ofContent content ∈ extractor.mappings) :
    (extractor.replace markdown).toList =
      (pieces markdown.toList).flatMap Piece.substituted := by
  have reads := reads_pieces markdown.toList
  have untouched :
      markdown.toList = shownAll (fun _ => false) (pieces markdown.toList) :=
    reads.text_eq
  rw [replace, String.toList_ofList]
  conv =>
    left
    rw [untouched]
  apply foldl_replaceAll reads
  · intro mapping member
    exact sound mapping (List.mem_mergeSort.mp member)
  · exact extractor.pairwise_byLength
  · intro content member
    right
    exact List.mem_mergeSort.mpr (known content (mem_contents_iff.mpr member))

end Extractor

/-- A substituted text has no expression left. -/
theorem Reads.no_expression_substituted
    {text : List Char}
    {parts : List Piece}
    (reads : Reads text parts)
    {content : List Char}
    (oneLine : '\n' ∉ content)
    (before after : List Char) :
    parts.flatMap Piece.substituted ≠ before ++ (Piece.wrap content ++ after) := by
  have allDone : Piece.substituted = Piece.shown (fun _ => true) := by
    funext piece
    cases piece <;>
      rfl
  rw [allDone, ← shownAll]
  induction reads generalizing before with
  | nil =>
      simp [shownAll, Piece.wrap, opening]
  | @plain c rest parts unwrapped reads inductionHypothesis =>
      intro whole
      cases before with
      | nil =>
          exact unwrapped_shownAll unwrapped reads content after oneLine whole
      | cons d before =>
          exact inductionHypothesis before (List.cons.inj whole).2
  | @wrapped inner rest parts isContent reads inductionHypothesis =>
      intro whole
      have absent := dollar_notMem_substituted inner
      rw [shownAll_wrapped, Piece.shown, if_pos rfl] at whole
      rcases List.append_eq_append_iff.mp whole with
        ⟨later, _, inRest⟩ | ⟨later, placeholder, starts⟩
      · exact inductionHypothesis later inRest
      · -- The expression would begin inside the placeholder or right after it.
        cases later with
        | nil =>
            exact inductionHypothesis [] (by simpa using starts.symm)
        | cons c later =>
            have isDollar : '$' = c := (List.cons.inj starts).1
            rw [placeholder] at absent
            exact absent (by simp [← isDollar])

/--
After any sequence of extractions, the last of which is from the text itself,
replacement substitutes every expression of the text's only reading at once and
keeps everything else.  The result has no expression left.
-/
theorem replace_extract_eq_substitution
    (documents : List String)
    (markdown : String) :
    ∃ parts,
      (∀ other, Reads markdown.toList other ↔ other = parts) ∧
        (((documents.foldl Extractor.extract .empty).extract markdown).replace
              markdown).toList =
          parts.flatMap Piece.substituted ∧
        ∀ before content after,
          '\n' ∉ content →
          (((documents.foldl Extractor.extract .empty).extract markdown).replace
                markdown).toList ≠
            before ++ (Piece.wrap content ++ after) := by
  have reached := Extractor.sound_foldl_extract Extractor.sound_empty documents
  have replaced :=
    (reached.extract markdown).replace_eq (fun _ => reached.mem_extract)
  refine ⟨pieces markdown.toList, fun _ => reads_iff, replaced, ?_⟩
  intro before content after oneLine
  rw [replaced]
  exact (reads_pieces markdown.toList).no_expression_substituted oneLine before after

/-- An expression recorded before, a new one, and an opening that nothing closes. -/
theorem replace_extract_eq_substitution_of_two_documents :
    ((Extractor.empty.extract "$\x7b\x7b github.actor \x7d\x7d").extract
          "$\x7b\x7b github.actor \x7d\x7d: $\x7b\x7ba.b\x7d\x7d $\x7b\x7b").replace
        "$\x7b\x7b github.actor \x7d\x7d: $\x7b\x7ba.b\x7d\x7d $\x7b\x7b" =
      "__GH_AW_GITHUB_ACTOR__: __GH_AW_A_B__ $\x7b\x7b" := by
  obtain ⟨parts, reading, replaced, _⟩ :=
    replace_extract_eq_substitution
      ["$\x7b\x7b github.actor \x7d\x7d"]
      "$\x7b\x7b github.actor \x7d\x7d: $\x7b\x7ba.b\x7d\x7d $\x7b\x7b"
  have shape := (reading _).mp (reads_pieces _)
  apply String.toList_inj.mp
  rw [← shape] at replaced
  exact replaced.trans (by decide +kernel)

end WorkflowConditions.Markdown
