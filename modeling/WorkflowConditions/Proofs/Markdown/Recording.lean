import WorkflowConditions.Proofs.Markdown.Replacement

namespace WorkflowConditions.Markdown

open Text (opening closing)

/-!
# What a run of extractions lists

A run goes through some documents and lists what it has recorded, sorted by source.
An expression never reaches across the end of a line, so the expressions of documents
that are joined by line breaks are those of the documents.  What is recorded of an
expression is a function of its source, so the list is one of the set of documents:
neither their order nor a repetition shows in it.
-/

/-- The list that the last of several extractions returns. -/
def listing (documents : List String) : List Mapping :=
  (documents.foldl Extractor.extract .empty).bySource

/-- A source text is one of the expressions that a document is read into. -/
def IsExpressionOf
    (document source : String) :
    Prop :=
  ∃ parts content,
    Reads document.toList parts ∧
      .wrapped content ∈ parts ∧
      source = String.ofList (Piece.wrap content)

/-- The mapping of an expression, given its source text. -/
def Mapping.ofSource (source : String) : Mapping :=
  .ofContent
    ((source.toList.drop opening.length).take
      (source.length - (opening.length + closing.length)))

/-- The content of an expression is found again in its source text. -/
theorem Mapping.ofSource_ofContent (content : List Char) :
    ofSource (ofContent content).source = ofContent content := by
  rw [ofSource, source_ofContent, length_source_ofContent]
  simp [Piece.wrap, opening, closing]

/-- The expressions of a document are those whose contents are found in it. -/
theorem isExpressionOf_iff
    {document source : String} :
    IsExpressionOf document source ↔
      ∃ content ∈ contents document.toList,
        source = (Mapping.ofContent content).source := by
  constructor
  · rintro ⟨parts, content, reads, member, rfl⟩
    obtain rfl := reads_iff.mp reads
    exact ⟨content, mem_contents_iff.mpr member, rfl⟩
  · rintro ⟨content, member, rfl⟩
    exact ⟨_, content, reads_pieces _, mem_contents_iff.mp member, rfl⟩

/-! ## Documents joined by line breaks -/

/-- An expression stands on one line. -/
theorem newline_notMem_wrap
    {content : List Char}
    (oneLine : '\n' ∉ content) :
    '\n' ∉ Piece.wrap content := by
  simp [Piece.wrap, opening, closing, oneLine]

/-- What comes on later lines does not make an expression. -/
theorem Unwrapped.append_line
    {c : Char}
    {rest : List Char}
    (unwrapped : Unwrapped (c :: rest))
    (next : List Char) :
    Unwrapped (c :: (rest ++ '\n' :: next)) := by
  intro content after oneLine whole
  rw [← List.cons_append] at whole
  rcases List.append_eq_append_iff.mp whole with
    ⟨middle, expression, later⟩ | ⟨middle, line, _⟩
  · cases middle with
    | nil =>
        exact unwrapped content [] oneLine (by simpa using expression.symm)
    | cons d middle =>
        -- The expression would hold the line break.
        obtain rfl : '\n' = d := (List.cons.inj later).1
        apply newline_notMem_wrap oneLine
        rw [expression]
        simp
  · exact unwrapped content middle oneLine line

/-- No expression begins with a line end. -/
theorem unwrapped_newline (rest : List Char) :
    Unwrapped ('\n' :: rest) := by
  intro content after _ whole
  rw [wrap_append, opening] at whole
  cases (List.cons.inj whole).1

/-- Two texts on lines of their own are read on their own. -/
theorem Reads.append_line
    {first second : List Char}
    {firstParts secondParts : List Piece}
    (firstReads : Reads first firstParts)
    (secondReads : Reads second secondParts) :
    Reads (first ++ '\n' :: second) (firstParts ++ .plain '\n' :: secondParts) := by
  induction firstReads with
  | nil =>
      exact .plain (unwrapped_newline second) secondReads
  | wrapped isContent _ inductionHypothesis =>
      rw [List.append_assoc]
      exact .wrapped isContent inductionHypothesis
  | plain unwrapped _ inductionHypothesis =>
      exact .plain (unwrapped.append_line second) inductionHypothesis

/-- An expression never goes over a line end, so joining two texts by one adds none. -/
theorem contents_append_line
    (first second : List Char) :
    contents (first ++ '\n' :: second) = contents first ++ contents second := by
  have joined :
      pieces (first ++ '\n' :: second) =
        pieces first ++ .plain '\n' :: pieces second :=
    (reads_iff.mp ((reads_pieces first).append_line (reads_pieces second))).symm
  rw [contents, joined, List.filterMap_append]
  rfl

/-- Documents joined by line ends have the expressions of all of them. -/
theorem contents_intercalate (documents : List String) :
    contents ("\n".intercalate documents).toList =
      documents.flatMap (fun document => contents document.toList) := by
  induction documents with
  | nil =>
      rw [String.intercalate_nil, contents, String.toList_empty, pieces]
      rfl
  | cons document others inductionHypothesis =>
      rw [List.flatMap_cons, ← inductionHypothesis]
      cases others with
      | nil =>
          rw [String.intercalate_singleton, inductionHypothesis]
          simp
      | cons next rest =>
          rw [String.intercalate_cons_cons, ← contents_append_line]
          simp

namespace Extractor

/-! ## What is recorded -/

/-- Recording adds nothing but the mapping that is recorded. -/
theorem mem_of_mem_record
    {extractor : Extractor}
    {mapping other : Mapping}
    (member : mapping ∈ (extractor.record other).mappings) :
    mapping ∈ extractor.mappings ∨ mapping = other := by
  unfold record at member
  split at member
  · exact .inl member
  · exact (List.mem_append.mp member).imp id List.mem_singleton.mp

/-- Recording the contents of a text adds nothing but their mappings. -/
theorem mem_of_mem_foldl_record
    {extractor : Extractor}
    {found : List (List Char)}
    {mapping : Mapping}
    (member :
      mapping ∈
        (found.foldl (fun known content => known.record (.ofContent content))
          extractor).mappings) :
    mapping ∈ extractor.mappings ∨ ∃ content ∈ found, mapping = .ofContent content := by
  induction found generalizing extractor with
  | nil =>
      exact .inl member
  | cons content others inductionHypothesis =>
      rcases inductionHypothesis member with known | ⟨later, inOthers, rfl⟩
      · rcases mem_of_mem_record known with known | rfl
        · exact .inl known
        · exact .inr ⟨content, by simp, rfl⟩
      · exact .inr ⟨later, by simp [inOthers], rfl⟩

/-- An extraction adds the expressions of its document. -/
theorem Sound.mem_extract_iff
    {extractor : Extractor}
    (sound : extractor.Sound)
    {markdown : String}
    {mapping : Mapping} :
    mapping ∈ (extractor.extract markdown).mappings ↔
      mapping ∈ extractor.mappings ∨
        ∃ content ∈ contents markdown.toList, mapping = .ofContent content := by
  constructor
  · exact mem_of_mem_foldl_record
  · rintro (known | ⟨content, member, rfl⟩)
    · exact (sound.foldl_record fun _ => isContent_of_mem_contents).2.1 mapping known
    · exact sound.mem_extract member

/-- A run adds the expressions of all its documents. -/
theorem Sound.mem_foldl_extract_iff
    {extractor : Extractor}
    (sound : extractor.Sound)
    {documents : List String}
    {mapping : Mapping} :
    mapping ∈ (documents.foldl Extractor.extract extractor).mappings ↔
      mapping ∈ extractor.mappings ∨
        ∃ document ∈ documents, ∃ content ∈ contents document.toList,
          mapping = .ofContent content := by
  induction documents generalizing extractor with
  | nil =>
      simp
  | cons document others inductionHypothesis =>
      rw [List.foldl_cons, inductionHypothesis (sound.extract document),
        sound.mem_extract_iff, or_assoc]
      simp only [List.mem_cons, exists_eq_or_imp]

/-! ## Each expression is recorded once -/

/-- No two recorded mappings have the same source. -/
def Distinct (extractor : Extractor) : Prop :=
  (extractor.mappings.map (·.source)).Nodup

theorem distinct_empty : empty.Distinct :=
  List.nodup_nil

/-- A mapping whose source is known is not recorded again. -/
theorem Distinct.record
    {extractor : Extractor}
    (distinct : extractor.Distinct)
    (mapping : Mapping) :
    (extractor.record mapping).Distinct := by
  unfold Extractor.record
  split
  · exact distinct
  · next unknown =>
      rw [Distinct, List.map_append, List.nodup_append]
      refine ⟨distinct, by simp, ?_⟩
      intro source known other isNew same
      obtain ⟨recorded, member, rfl⟩ := List.mem_map.mp known
      apply unknown
      refine List.any_eq_true.mpr ⟨recorded, member, ?_⟩
      rw [same, List.mem_singleton.mp isNew]
      exact beq_self_eq_true _

/-- Extraction records each source once. -/
theorem Distinct.extract
    {extractor : Extractor}
    (distinct : extractor.Distinct)
    (markdown : String) :
    (extractor.extract markdown).Distinct :=
  List.foldlRecOn (contents markdown.toList) _ distinct
    (fun _ known content _ => known.record (.ofContent content))

/-- Extraction from several documents records each source once. -/
theorem Distinct.foldl_extract
    {extractor : Extractor}
    (distinct : extractor.Distinct)
    (documents : List String) :
    (documents.foldl Extractor.extract extractor).Distinct :=
  List.foldlRecOn documents _ distinct
    (fun _ known document _ => known.extract document)

/-! ## The order of a listing -/

/-- The list is in the order of the sources. -/
theorem ascending_bySource (extractor : Extractor) :
    extractor.bySource.Pairwise (fun first second => first.source ≤ second.source) := by
  have ordered {first second : Mapping} :
      (!decide (second.source < first.source)) = true ↔ first.source ≤ second.source := by
    rw [Bool.not_eq_true', decide_eq_false_iff_not, String.not_lt]
  have sorted :=
    @List.pairwise_mergeSort Mapping
      (fun first second => !decide (second.source < first.source))
      (by
        intro first second third before after
        exact ordered.mpr (Std.le_trans (ordered.mp before) (ordered.mp after)))
      (by
        intro first second
        rw [Bool.or_eq_true, ordered, ordered]
        exact Std.le_total)
      extractor.mappings
  exact sorted.imp ordered.mp

/-- Without repetitions the order of the sources is strict. -/
theorem Distinct.pairwise_bySource
    {extractor : Extractor}
    (distinct : extractor.Distinct) :
    extractor.bySource.Pairwise (fun first second => first.source < second.source) := by
  have reordered : (extractor.bySource.map (·.source)).Nodup :=
    ((List.mergeSort_perm _ _).map _).nodup_iff.mpr distinct
  rw [List.Nodup, List.pairwise_map] at reordered
  exact (extractor.ascending_bySource.and reordered).imp
    (fun both => Std.lt_of_le_of_ne both.1 both.2)

end Extractor

/-- Strictly ascending lists with the same mappings are equal. -/
theorem eq_of_ascending
    {first second : List Mapping}
    (firstAscends : first.Pairwise (fun earlier later => earlier.source < later.source))
    (secondAscends : second.Pairwise (fun earlier later => earlier.source < later.source))
    (same : ∀ mapping, mapping ∈ first ↔ mapping ∈ second) :
    first = second := by
  have nodup
      {listed : List Mapping}
      (ascends : listed.Pairwise (fun earlier later => earlier.source < later.source)) :
      listed.Nodup := by
    refine ascends.imp ?_
    rintro earlier _ less rfl
    exact String.lt_irrefl _ less
  refine List.Perm.eq_of_pairwise ?_ firstAscends secondAscends
    ((List.perm_ext_iff_of_nodup (nodup firstAscends) (nodup secondAscends)).mpr same)
  intro earlier later _ _ less greater
  exact absurd (Std.lt_trans less greater) (String.lt_irrefl _)

/-! ## Listings -/

/-- The list of several extractions is strictly in the order of the sources. -/
theorem pairwise_listing (documents : List String) :
    (listing documents).Pairwise (fun first second => first.source < second.source) :=
  (Extractor.distinct_empty.foldl_extract documents).pairwise_bySource

/-- A listing holds the expressions of its documents. -/
theorem mem_listing_iff
    {documents : List String}
    {mapping : Mapping} :
    mapping ∈ listing documents ↔
      ∃ document ∈ documents, ∃ content ∈ contents document.toList,
        mapping = .ofContent content := by
  rw [listing, Extractor.bySource, List.mem_mergeSort,
    Extractor.sound_empty.mem_foldl_extract_iff]
  simp [Extractor.empty]

/-- The list has the expressions of all documents and no others. -/
theorem mem_map_source_listing_iff
    {documents : List String}
    {source : String} :
    source ∈ (listing documents).map (·.source) ↔
      ∃ document ∈ documents, IsExpressionOf document source := by
  simp only [List.mem_map, mem_listing_iff, isExpressionOf_iff]
  constructor
  · rintro ⟨_, ⟨document, isDocument, content, member, rfl⟩, rfl⟩
    exact ⟨document, isDocument, content, member, rfl⟩
  · rintro ⟨document, isDocument, content, member, rfl⟩
    exact ⟨_, ⟨document, isDocument, content, member, rfl⟩, rfl⟩

/-- A listed mapping is determined by its source. -/
theorem eq_ofSource_of_mem_listing
    {documents : List String}
    {mapping : Mapping}
    (member : mapping ∈ listing documents) :
    mapping = .ofSource mapping.source := by
  obtain ⟨_, _, content, _, rfl⟩ := mem_listing_iff.mp member
  exact (Mapping.ofSource_ofContent content).symm

/-- Listings are equal when they hold the same mappings. -/
theorem listing_eq_of_mem_iff
    {first second : List String}
    (same : ∀ mapping, mapping ∈ listing first ↔ mapping ∈ listing second) :
    listing first = listing second :=
  eq_of_ascending (pairwise_listing first) (pairwise_listing second) same

/--
A listing ascends strictly by source, its sources are exactly the expressions of the
documents, and each mapping is a function of its source.  So it depends on the set of
documents only, and one extraction from the joined documents gives the same list.
-/
theorem listing_determined_by_documents :
    (∀ documents : List String,
        (listing documents).Pairwise
            (fun first second => first.source < second.source) ∧
          (∀ source,
            source ∈ (listing documents).map (·.source) ↔
              ∃ document ∈ documents, IsExpressionOf document source) ∧
          ∀ mapping ∈ listing documents, mapping = .ofSource mapping.source) ∧
      (∀ documents others : List String,
        (∀ document, document ∈ documents ↔ document ∈ others) →
        listing documents = listing others) ∧
      ∀ documents : List String,
        listing ["\n".intercalate documents] = listing documents := by
  refine ⟨?_, ?_, ?_⟩
  · intro documents
    exact ⟨pairwise_listing documents, fun _ => mem_map_source_listing_iff,
      fun _ => eq_ofSource_of_mem_listing⟩
  · intro documents others same
    apply listing_eq_of_mem_iff
    intro mapping
    simp only [mem_listing_iff, same]
  · intro documents
    apply listing_eq_of_mem_iff
    intro mapping
    simp only [mem_listing_iff, List.mem_singleton, exists_eq_left, contents_intercalate,
      List.mem_flatMap]
    constructor
    · rintro ⟨content, ⟨document, isDocument, member⟩, rfl⟩
      exact ⟨document, isDocument, content, member, rfl⟩
    · rintro ⟨document, isDocument, content, member, rfl⟩
      exact ⟨content, ⟨document, isDocument, member⟩, rfl⟩

/-- A document read twice, and an opening that only the next document could close. -/
theorem listing_determined_by_documents_of_repetition :
    let opened := "$\x7b\x7b b.c \x7d\x7d $\x7b\x7b a"
    let closed := "\x7d\x7d $\x7b\x7b a \x7d\x7d"
    (∀ document, document ∈ [opened, closed, opened] ↔ document ∈ [closed, opened]) ∧
      listing [opened, closed, opened] = listing [closed, opened] ∧
      listing [opened ++ "\n" ++ closed] = listing [opened, closed] ∧
      listing [opened, closed] =
        [⟨"$\x7b\x7b a \x7d\x7d", "GH_AW_A", "a"⟩,
          ⟨"$\x7b\x7b b.c \x7d\x7d", "GH_AW_B_C", "b.c"⟩] := by
  intro opened closed
  obtain ⟨_, sameSet, joined⟩ := listing_determined_by_documents
  have same :
      ∀ document, document ∈ [opened, closed, opened] ↔ document ∈ [closed, opened] := by
    intro document
    simp only [List.mem_cons, List.not_mem_nil, or_false]
    constructor
    · rintro (first | second | third)
      · exact .inr first
      · exact .inl second
      · exact .inr third
    · rintro (first | second)
      · exact .inr (.inl first)
      · exact .inl second
  have state :
      ([opened, closed].foldl Extractor.extract .empty).mappings =
        [⟨"$\x7b\x7b b.c \x7d\x7d", "GH_AW_B_C", "b.c"⟩,
          ⟨"$\x7b\x7b a \x7d\x7d", "GH_AW_A", "a"⟩] := by
    decide +kernel
  refine ⟨same, sameSet _ _ same, joined [opened, closed], ?_⟩
  refine eq_of_ascending (pairwise_listing _) (by decide +kernel) ?_
  intro mapping
  rw [listing, Extractor.bySource, List.mem_mergeSort, state]
  simp [or_comm]

end WorkflowConditions.Markdown
