import Mathlib.Data.List.Forall2
import WorkflowConditions.Proofs.Markdown.Replacement

namespace WorkflowConditions.Markdown

/-!
# Expressions that share a variable

The variable of a chain of names keeps neither the case of its letters nor the
difference between dots and underscores, and a chain may spell out the tag of a
fingerprint.  As far as fingerprints differ, these are the only ways in which two
expressions come to share a variable.
-/

/-- Characters of chains that variables do not tell apart. -/
def Confused (c d : Char) : Prop :=
  c.toUpper = d.toUpper ∨ ((c = '.' ∨ c = '_') ∧ (d = '.' ∨ d = '_'))

/-- Chains of the same length whose characters are confused one by one. -/
def ConfusedChains (first second : List Char) : Prop :=
  isChain first = true ∧ isChain second = true ∧ List.Forall₂ Confused first second

/-- A chain whose name is the tag of an expression that is no chain. -/
def SpellsTag (chain content : List Char) : Prop :=
  isChain chain = true ∧
    isChain content = false ∧
    chainName chain = "EXPR_" ++ Digest.fingerprint (String.ofList content)

/-- Recorded expressions that are no chains are told apart by their fingerprints. -/
def FingerprintsDiffer (recorded : List Mapping) : Prop :=
  ∀ first ∈ recorded, ∀ second ∈ recorded,
    isChain first.content.toList = false →
    isChain second.content.toList = false →
    Digest.fingerprint first.content = Digest.fingerprint second.content →
    first.content = second.content

/-! ## Names of chains -/

/-- A character of a chain as it stands in a variable. -/
def named (c : Char) : Char :=
  if c = '.' then '_' else c.toUpper

theorem named_of_ne_dot
    {c : Char}
    (other : c ≠ '.') :
    named c = c.toUpper :=
  if_neg other

/-- Only a point and an underscore become an underscore. -/
theorem named_eq_underscore_iff {c : Char} :
    named c = '_' ↔ c = '.' ∨ c = '_' := by
  by_cases isDot : c = '.'
  · simp [named, isDot]
  · rw [named_of_ne_dot isDot]
    constructor
    · intro same
      exact .inr (eq_of_toUpper_eq same (by decide))
    · rintro (dot | rfl)
      · exact (isDot dot).elim
      · decide

/-- Two characters are named alike exactly when the rules confuse them. -/
theorem named_eq_iff_confused {c d : Char} :
    named c = named d ↔ Confused c d := by
  constructor
  · intro same
    by_cases marked : named c = '_'
    · right
      exact ⟨named_eq_underscore_iff.mp marked,
        named_eq_underscore_iff.mp (same ▸ marked)⟩
    · left
      have firstOther : c ≠ '.' := by
        rintro rfl
        exact marked rfl
      have secondOther : d ≠ '.' := by
        rintro rfl
        exact marked same
      rwa [named_of_ne_dot firstOther, named_of_ne_dot secondOther] at same
  · rintro (sameLetter | ⟨firstMark, secondMark⟩)
    · by_cases isDot : c = '.'
      · obtain rfl : d = '.' := eq_of_toUpper_eq (by simp [← sameLetter, isDot]) (by decide)
        rw [isDot]
      · have other : d ≠ '.' := by
          rintro rfl
          exact isDot (eq_of_toUpper_eq sameLetter (by decide))
        rw [named_of_ne_dot isDot, named_of_ne_dot other, sameLetter]
    · rw [named_eq_underscore_iff.mpr firstMark, named_eq_underscore_iff.mpr secondMark]

/-- Two chains have one name exactly when they are confused character by character. -/
theorem chainName_eq_iff_confused {first second : List Char} :
    chainName first = chainName second ↔ List.Forall₂ Confused first second := by
  have asMaps : chainName first = chainName second ↔ first.map named = second.map named :=
    String.ofList_inj
  rw [asMaps, ← List.forall₂_eq_eq_eq, List.forall₂_map_left_iff,
    List.forall₂_map_right_iff]
  simp only [named_eq_iff_confused]

/-! ## Variables -/

/-- Contents share a variable as chains, as equal tags, or as a chain and the tag it spells. -/
theorem variableName_eq_iff {first second : List Char} :
    variableName first = variableName second ↔
      ConfusedChains first second ∨
        (isChain first = false ∧ isChain second = false ∧
          Digest.fingerprint (String.ofList first) =
            Digest.fingerprint (String.ofList second)) ∨
        SpellsTag first second ∨ SpellsTag second first := by
  unfold variableName ConfusedChains SpellsTag
  rw [String.append_right_inj]
  cases firstChain : isChain first <;>
    cases secondChain : isChain second
  · simp [String.append_right_inj]
  · simp [eq_comm]
  · simp
  · simp [chainName_eq_iff_confused]

/-- The variable of a recorded expression is named after its content. -/
theorem Extractor.Sound.envVar_eq
    {extractor : Extractor}
    (sound : extractor.Sound)
    {mapping : Mapping}
    (recorded : mapping ∈ extractor.mappings) :
    mapping.envVar = variableName mapping.content.toList := by
  obtain ⟨content, _, rfl⟩ := sound mapping recorded
  simp [Mapping.ofContent]

/--
In every state that extractions lead to, and as far as fingerprints differ, two
recorded expressions have the same variable exactly when they have the same content,
are chains that are confused character by character, or one of them is a chain that
spells the tag of the other.
-/
theorem envVar_eq_iff_confused
    (documents : List String)
    (differ : FingerprintsDiffer (documents.foldl Extractor.extract .empty).mappings)
    (first : Mapping)
    (firstRecorded : first ∈ (documents.foldl Extractor.extract .empty).mappings)
    (second : Mapping)
    (secondRecorded : second ∈ (documents.foldl Extractor.extract .empty).mappings) :
    first.envVar = second.envVar ↔
      first.content = second.content ∨
        ConfusedChains first.content.toList second.content.toList ∨
        SpellsTag first.content.toList second.content.toList ∨
        SpellsTag second.content.toList first.content.toList := by
  have sound := Extractor.sound_foldl_extract Extractor.sound_empty documents
  have firstName := sound.envVar_eq firstRecorded
  have secondName := sound.envVar_eq secondRecorded
  constructor
  · rw [firstName, secondName, variableName_eq_iff]
    rintro (chains | ⟨firstOther, secondOther, sameTag⟩ | tag | tag)
    · exact .inr (.inl chains)
    · rw [String.ofList_toList, String.ofList_toList] at sameTag
      exact .inl
        (differ first firstRecorded second secondRecorded firstOther secondOther sameTag)
    · exact .inr (.inr (.inl tag))
    · exact .inr (.inr (.inr tag))
  · rintro (same | confused)
    · rw [firstName, secondName, same]
    · rw [firstName, secondName, variableName_eq_iff]
      rcases confused with chains | tags
      · exact .inl chains
      · exact .inr (.inr tags)

/-- A chain in lower case, with a dot, that spells the tag of a disjunction. -/
theorem envVar_eq_iff_confused_of_spelled_tag :
    let recorded :=
      (["$\x7b\x7b a || b \x7d\x7d $\x7b\x7b expr.f8dc2e8b \x7d\x7d"].foldl
        Extractor.extract .empty).mappings
    FingerprintsDiffer recorded ∧
      recorded =
        [⟨"$\x7b\x7b a || b \x7d\x7d", "GH_AW_EXPR_F8DC2E8B", "a || b"⟩,
          ⟨"$\x7b\x7b expr.f8dc2e8b \x7d\x7d", "GH_AW_EXPR_F8DC2E8B", "expr.f8dc2e8b"⟩] ∧
      SpellsTag "expr.f8dc2e8b".toList "a || b".toList := by
  intro recorded
  have state :
      recorded =
        [⟨"$\x7b\x7b a || b \x7d\x7d", "GH_AW_EXPR_F8DC2E8B", "a || b"⟩,
          ⟨"$\x7b\x7b expr.f8dc2e8b \x7d\x7d", "GH_AW_EXPR_F8DC2E8B", "expr.f8dc2e8b"⟩] := by
    decide +kernel
  have differ : FingerprintsDiffer recorded := by
    rw [state, FingerprintsDiffer]
    decide +kernel
  have disjunction :
      ⟨"$\x7b\x7b a || b \x7d\x7d", "GH_AW_EXPR_F8DC2E8B", "a || b"⟩ ∈ recorded := by
    simp [state]
  have chain :
      ⟨"$\x7b\x7b expr.f8dc2e8b \x7d\x7d", "GH_AW_EXPR_F8DC2E8B", "expr.f8dc2e8b"⟩ ∈
        recorded := by
    simp [state]
  refine ⟨differ, state, ?_⟩
  rcases (envVar_eq_iff_confused _ differ _ chain _ disjunction).mp rfl with
    same | ⟨_, isChain, _⟩ | tag | ⟨isChain, _⟩
  · exact absurd same (by decide)
  · exact absurd isChain (by decide)
  · exact tag
  · exact absurd isChain (by decide)

/--
The name of an event and a property of its payload share a variable, and so a
placeholder, although their contents and the fingerprints of these differ.
-/
theorem envVar_shared_by_event_names :
    let document :=
      "$\x7b\x7b github.event_name \x7d\x7d, $\x7b\x7b github.event.name \x7d\x7d"
    let reached := Extractor.empty.extract document
    (∀ first ∈ reached.mappings, ∀ second ∈ reached.mappings,
        Digest.fingerprint first.content = Digest.fingerprint second.content →
        first.content = second.content) ∧
      (∃ first ∈ reached.mappings, ∃ second ∈ reached.mappings,
        first.envVar = second.envVar ∧ first.content ≠ second.content) ∧
      reached.replace document =
        "__GH_AW_GITHUB_EVENT_NAME__, __GH_AW_GITHUB_EVENT_NAME__" := by
  intro document reached
  have state :
      reached.mappings =
        [⟨"$\x7b\x7b github.event_name \x7d\x7d", "GH_AW_GITHUB_EVENT_NAME",
            "github.event_name"⟩,
          ⟨"$\x7b\x7b github.event.name \x7d\x7d", "GH_AW_GITHUB_EVENT_NAME",
            "github.event.name"⟩] := by
    decide +kernel
  refine ⟨?_, ?_, String.toList_inj.mp ?_⟩
  · rw [state]
    decide +kernel
  · rw [state]
    decide
  · have replaced :=
      (Extractor.sound_empty.extract document).replace_eq
        (fun _ => Extractor.sound_empty.mem_extract)
    exact replaced.trans (by decide +kernel)

end WorkflowConditions.Markdown
