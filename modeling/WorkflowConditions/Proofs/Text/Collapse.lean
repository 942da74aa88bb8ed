import Mathlib.Data.List.SplitBy
import Mathlib.Data.Nat.Log
import Mathlib.Order.MinMax
import WorkflowConditions.Proofs.Text.Space
import WorkflowConditions.Text.Normal

namespace WorkflowConditions.Text

/-!
# Collapsing gaps

A gap is a run of spaces, tabs and line feeds with none of them on either side.  In
normal spacing each gap is one space.  Collapsing gets there in rounds over the whole
text, and a round leaves of every gap half its spaces, rounded up, so short gaps are
done while long ones still shrink.  No round changes the text with one space for each
gap.  The loop therefore ends with that text, and the longest gap alone decides how
many rounds it takes.
-/

/-! ## Gaps of a text -/

/-- The characters that make up gaps. -/
def inGap (c : Char) : Bool :=
  c == ' ' || c == '\t' || c == '\n'

/-- A text cut into its gaps and the words between them. -/
def stretches (text : List Char) : List (List Char) :=
  text.splitBy fun c d => inGap c == inGap d

/-- A text with one space in place of each gap. -/
def singleSpaced (text : List Char) : List Char :=
  (stretches text).flatMap fun stretch => if stretch.all inGap then [' '] else stretch

/-- Length of the longest gap of a text. -/
def longestGap (text : List Char) : Nat :=
  ((stretches text).filter (·.all inGap)).foldr (fun gap longest => max gap.length longest) 0

/-- A whole gap or a whole word, with what follows it in a text. -/
structure Stretch
    (isGap : Bool)
    (stretch rest : List Char) :
    Prop where
  nonempty : stretch ≠ []
  alike : ∀ c ∈ stretch, inGap c = isGap
  ends : ∀ c ∈ rest.head?, inGap c = !isGap

namespace Stretch

variable {isGap : Bool} {stretch rest : List Char}

/-- A stretch is a gap or a word, told by all of its characters. -/
theorem all_inGap
    (whole : Stretch isGap stretch rest) :
    stretch.all inGap = isGap := by
  obtain ⟨c, member⟩ := List.exists_mem_of_ne_nil stretch whole.nonempty
  cases isGap with
  | false =>
      exact List.all_eq_false.mpr ⟨c, member, by simp [whole.alike c member]⟩
  | true =>
      exact List.all_eq_true.mpr whole.alike

/-- The stretch at the front of a text is the first of its stretches. -/
theorem stretches_append
    (whole : Stretch isGap stretch rest) :
    stretches (stretch ++ rest) = stretch :: stretches rest := by
  have alike : stretch.IsChain fun c d => (inGap c == inGap d) = true := by
    apply List.Pairwise.isChain
    apply List.pairwise_of_forall_mem_list
    intro c cMember d dMember
    simp [whole.alike c cMember, whole.alike d dMember]
  have apart :
      ∀ c ∈ stretch.getLast?, ∀ d ∈ rest.head?, (inGap c == inGap d) = false := by
    intro c isLast d isFirst
    simp [whole.alike c (List.mem_of_getLast? isLast), whole.ends d isFirst]
  rw [stretches, List.splitBy_append apart, List.splitBy_of_isChain whole.nonempty alike]
  rfl

/-- A gap at the front becomes one space, and a word stays. -/
theorem singleSpaced_append
    (whole : Stretch isGap stretch rest) :
    singleSpaced (stretch ++ rest) =
      (if isGap then [' '] else stretch) ++ singleSpaced rest := by
  rw [singleSpaced, whole.stretches_append, List.flatMap_cons, whole.all_inGap, singleSpaced]

/-- The longest gap is the one at the front or the longest in the rest. -/
theorem longestGap_append
    (whole : Stretch isGap stretch rest) :
    longestGap (stretch ++ rest) =
      max (if isGap then stretch.length else 0) (longestGap rest) := by
  rw [longestGap, whole.stretches_append, List.filter_cons, whole.all_inGap, longestGap]
  cases isGap with
  | false =>
      exact (Nat.zero_max _).symm
  | true =>
      rfl

end Stretch

/-- Induction over the stretches of a text, from its front. -/
theorem stretch_induction
    {motive : List Char → Prop}
    (nil : motive [])
    (append :
      ∀ isGap stretch rest,
        Stretch isGap stretch rest →
        motive rest →
        motive (stretch ++ rest)) :
    ∀ text, motive text
  | [] => nil
  | c :: rest => by
      -- The first stretch goes on while the characters are of the kind of its first one.
      let alike (d : Char) : Bool := inGap d == inGap c
      have later := stretch_induction nil append (rest.dropWhile alike)
      have first : Stretch (inGap c) (c :: rest.takeWhile alike) (rest.dropWhile alike) := by
        refine ⟨List.cons_ne_nil _ _, ?_, ?_⟩
        · intro d member
          rcases List.mem_cons.mp member with rfl | taken
          · rfl
          · exact beq_iff_eq.mp (List.all_eq_true.mp List.all_takeWhile d taken)
        · intro d isFirst
          have stops := List.head?_dropWhile_not alike rest
          rw [Option.mem_def.mp isFirst] at stops
          exact Bool.eq_not.mpr (by simpa [alike] using stops)
      have whole := append _ _ _ first later
      rwa [List.cons_append, List.takeWhile_append_dropWhile] at whole
termination_by text => text.length
decreasing_by
  exact Nat.lt_succ_of_le (List.dropWhile_suffix _).length_le

/-! ## Spaces in place of tabs and line feeds -/

/-- The gaps of a text are made up of spaces only. -/
def SpacesOnly (text : List Char) : Prop :=
  ∀ c ∈ text, inGap c = true → c = ' '

/-- Both parts of a text whose gaps are spaces have spaces for gaps. -/
theorem SpacesOnly.of_append
    {front back : List Char}
    (spacesOnly : SpacesOnly (front ++ back)) :
    SpacesOnly front ∧ SpacesOnly back :=
  List.forall_mem_append.mp spacesOnly

theorem spaced_of_not_inGap
    {c : Char}
    (letter : inGap c = false) :
    spaced c = c := by
  simp only [inGap, Bool.or_eq_false_iff, beq_eq_false_iff_ne] at letter
  simp [spaced, letter]

theorem spaced_of_inGap
    {c : Char}
    (blank : inGap c = true) :
    spaced c = ' ' := by
  simp only [inGap, Bool.or_eq_true, beq_iff_eq] at blank
  rcases blank with (rfl | rfl) | rfl <;>
    rfl

/-- Turning white space into spaces moves no gap. -/
theorem inGap_spaced (c : Char) :
    inGap (spaced c) = inGap c := by
  cases kind : inGap c with
  | false =>
      rw [spaced_of_not_inGap kind, kind]
  | true =>
      rw [spaced_of_inGap kind]
      rfl

/-- Afterwards all gaps are made of spaces. -/
theorem spacesOnly_map_spaced (text : List Char) :
    SpacesOnly (text.map spaced) := by
  intro c member blank
  obtain ⟨d, _, rfl⟩ := List.mem_map.mp member
  rw [inGap_spaced] at blank
  exact spaced_of_inGap blank

/-- A text whose gaps are spaces is left alone. -/
theorem SpacesOnly.map_spaced
    {text : List Char}
    (spacesOnly : SpacesOnly text) :
    text.map spaced = text := by
  have kept : ∀ c ∈ text, spaced c = c := by
    intro c member
    cases kind : inGap c with
    | false =>
        exact spaced_of_not_inGap kind
    | true =>
        rw [spaced_of_inGap kind, spacesOnly c member kind]
  rw [List.map_congr_left kept, List.map_id']

/-- Stretches stay stretches. -/
theorem Stretch.map_spaced
    {isGap : Bool}
    {stretch rest : List Char}
    (whole : Stretch isGap stretch rest) :
    Stretch isGap (stretch.map spaced) (rest.map spaced) := by
  refine ⟨by simpa using whole.nonempty, ?_, ?_⟩
  · intro c member
    obtain ⟨d, isMember, rfl⟩ := List.mem_map.mp member
    rw [inGap_spaced, whole.alike d isMember]
  · intro c isFirst
    rw [List.head?_map, Option.mem_def, Option.map_eq_some_iff] at isFirst
    obtain ⟨d, isHead, rfl⟩ := isFirst
    rw [inGap_spaced, whole.ends d isHead]

/-- Which white space a gap is made of does not show in the result. -/
theorem singleSpaced_map_spaced (text : List Char) :
    singleSpaced (text.map spaced) = singleSpaced text := by
  induction text using stretch_induction with
  | nil =>
      rfl
  | append isGap stretch rest whole inductionHypothesis =>
      rw [List.map_append, whole.map_spaced.singleSpaced_append, whole.singleSpaced_append,
        inductionHypothesis]
      cases isGap with
      | false =>
          have letters : SpacesOnly stretch := by
            intro c member blank
            rw [whole.alike c member] at blank
            contradiction
          rw [letters.map_spaced]
      | true =>
          rfl

/-- Which white space a gap is made of does not change its length. -/
theorem longestGap_map_spaced (text : List Char) :
    longestGap (text.map spaced) = longestGap text := by
  induction text using stretch_induction with
  | nil =>
      rfl
  | append isGap stretch rest whole inductionHypothesis =>
      rw [List.map_append, whole.map_spaced.longestGap_append, whole.longestGap_append,
        inductionHypothesis, List.length_map]

/-! ## One round -/

/-- What a round leaves of a stretch: a word as it is, half of a gap. -/
def halved : (isGap : Bool) → List Char → List Char
  | false, word => word
  | true, gap => List.replicate ((gap.length + 1) / 2) ' '

theorem halveSpaces_nil :
    halveSpaces [] = [] :=
  replaceAll_nil _ _

/-- A pair of spaces does not begin with a letter. -/
theorem not_doubleSpace_prefix_of_letter
    {c : Char}
    (letter : inGap c = false)
    (rest : List Char) :
    ¬doubleSpace <+: c :: rest := by
  rw [doubleSpace, List.cons_prefix_cons]
  rintro ⟨rfl, _⟩
  cases letter

theorem not_doubleSpace_prefix_of_head
    {rest : List Char}
    (ends : ∀ c ∈ rest.head?, inGap c = false) :
    ¬doubleSpace <+: ' ' :: rest := by
  rw [doubleSpace, List.cons_prefix_cons]
  rintro ⟨_, later, rfl⟩
  cases ends ' ' rfl

/-- One round halves a gap and rounds up. -/
theorem halveSpaces_replicate_append
    {rest : List Char}
    (ends : ∀ c ∈ rest.head?, inGap c = false)
    (count : Nat) :
    halveSpaces (List.replicate count ' ' ++ rest) =
      List.replicate ((count + 1) / 2) ' ' ++ halveSpaces rest := by
  -- Two spaces go at a time, so the recursion is on the count less two.
  induction count using Nat.twoStepInduction with
  | zero =>
      rfl
  | one =>
      exact replaceAll_cons_of_absent [' '] (not_doubleSpace_prefix_of_head ends)
  | more count inductionHypothesis _ =>
      have half : (count + 2 + 1) / 2 = (count + 1) / 2 + 1 := by
        omega
      calc
        halveSpaces (List.replicate (count + 2) ' ' ++ rest) =
            ' ' :: halveSpaces (List.replicate count ' ' ++ rest) :=
          replaceAll_append_self [' '] (by decide) (List.replicate count ' ' ++ rest)
        _ = ' ' :: (List.replicate ((count + 1) / 2) ' ' ++ halveSpaces rest) := by
          rw [inductionHypothesis]
        _ = List.replicate ((count + 2 + 1) / 2) ' ' ++ halveSpaces rest := by
          rw [half]
          rfl

/-- A round changes no first character. -/
theorem head?_halveSpaces (text : List Char) :
    (halveSpaces text).head? = text.head? := by
  cases text with
  | nil =>
      rw [halveSpaces_nil]
  | cons c rest =>
      rw [halveSpaces, replaceAll]
      split
      case isTrue found =>
        have begins := List.isPrefixOf_iff_prefix.mp found
        rw [doubleSpace, List.cons_prefix_cons] at begins
        rw [← begins.1]
        rfl
      case isFalse =>
        rfl

/-- One round leaves words alone. -/
theorem halveSpaces_word_append
    {word : List Char}
    (letters : ∀ c ∈ word, inGap c = false)
    (rest : List Char) :
    halveSpaces (word ++ rest) = word ++ halveSpaces rest := by
  apply replaceAll_append_of_absent
  intro suffix isSuffix nonempty
  obtain ⟨c, others, rfl⟩ := List.exists_cons_of_ne_nil nonempty
  exact not_doubleSpace_prefix_of_letter (letters c (isSuffix.mem List.mem_cons_self)) _

namespace Stretch

variable {isGap : Bool} {stretch rest : List Char}

/-- A gap of spaces is that many spaces. -/
theorem eq_replicate
    (gap : Stretch true stretch rest)
    (spacesOnly : SpacesOnly stretch) :
    stretch = List.replicate stretch.length ' ' :=
  List.eq_replicate_of_mem fun c member => spacesOnly c member (gap.alike c member)

/-- A round goes through a text stretch by stretch. -/
theorem halveSpaces_append
    (whole : Stretch isGap stretch rest)
    (spacesOnly : SpacesOnly stretch) :
    halveSpaces (stretch ++ rest) = halved isGap stretch ++ halveSpaces rest := by
  cases isGap with
  | false =>
      exact halveSpaces_word_append whole.alike rest
  | true =>
      nth_rewrite 1 [whole.eq_replicate spacesOnly]
      exact halveSpaces_replicate_append whole.ends stretch.length

/-- What a round leaves of a stretch is again a whole one. -/
theorem afterRound
    (whole : Stretch isGap stretch rest) :
    Stretch isGap (halved isGap stretch) (halveSpaces rest) := by
  have ends : ∀ c ∈ (halveSpaces rest).head?, inGap c = !isGap := by
    rw [head?_halveSpaces]
    exact whole.ends
  cases isGap with
  | false =>
      exact ⟨whole.nonempty, whole.alike, ends⟩
  | true =>
      have length := List.length_pos_iff.mpr whole.nonempty
      refine ⟨?_, ?_, ends⟩
      · rw [halved, Ne, List.replicate_eq_nil_iff]
        omega
      · intro c member
        rw [List.eq_of_mem_replicate member]
        rfl

end Stretch

/-- A round makes no other white space. -/
theorem SpacesOnly.halveSpaces
    {text : List Char}
    (spacesOnly : SpacesOnly text) :
    SpacesOnly (halveSpaces text) := by
  intro c member blank
  rcases mem_of_mem_replaceAll member with new | kept
  · exact List.mem_singleton.mp new
  · exact spacesOnly c kept blank

/-- A round keeps the text with one space for each gap. -/
theorem singleSpaced_halveSpaces
    {text : List Char}
    (spacesOnly : SpacesOnly text) :
    singleSpaced (halveSpaces text) = singleSpaced text := by
  induction text using stretch_induction with
  | nil =>
      rw [halveSpaces_nil]
  | append isGap stretch rest whole inductionHypothesis =>
      obtain ⟨here, later⟩ := spacesOnly.of_append
      rw [whole.halveSpaces_append here, whole.afterRound.singleSpaced_append,
        whole.singleSpaced_append, inductionHypothesis later]
      cases isGap <;>
        rfl

/-- A round halves the longest gap. -/
theorem longestGap_halveSpaces
    {text : List Char}
    (spacesOnly : SpacesOnly text) :
    longestGap (halveSpaces text) = (longestGap text + 1) / 2 := by
  induction text using stretch_induction with
  | nil =>
      rw [halveSpaces_nil]
      rfl
  | append isGap stretch rest whole inductionHypothesis =>
      obtain ⟨here, later⟩ := spacesOnly.of_append
      rw [whole.halveSpaces_append here, whole.afterRound.longestGap_append,
        whole.longestGap_append, inductionHypothesis later]
      cases isGap with
      | false =>
          simp
      | true =>
          simp only [halved, List.length_replicate, if_true]
          omega

/-! ## Where the rounds end -/

/-- A word has no pair of spaces and ends none. -/
theorem doubleSpace_infix_word_append
    {word : List Char}
    (letters : ∀ c ∈ word, inGap c = false)
    (rest : List Char) :
    doubleSpace <:+: word ++ rest ↔ doubleSpace <:+: rest := by
  induction word with
  | nil =>
      rfl
  | cons c others inductionHypothesis =>
      have later := inductionHypothesis fun d member => letters d (List.mem_cons_of_mem c member)
      rw [List.cons_append, List.infix_cons_iff, later]
      exact or_iff_right (not_doubleSpace_prefix_of_letter (letters c List.mem_cons_self) _)

/-- Two spaces stand together in a gap of two or more only. -/
theorem Stretch.doubleSpace_infix_append
    {isGap : Bool}
    {stretch rest : List Char}
    (whole : Stretch isGap stretch rest)
    (spacesOnly : SpacesOnly stretch) :
    doubleSpace <:+: stretch ++ rest ↔
      2 ≤ (if isGap then stretch.length else 0) ∨ doubleSpace <:+: rest := by
  cases isGap with
  | false =>
      rw [doubleSpace_infix_word_append whole.alike]
      simp
  | true =>
      rw [whole.eq_replicate spacesOnly]
      cases shape : stretch.length with
      | zero =>
          exact (whole.nonempty (List.eq_nil_of_length_eq_zero shape)).elim
      | succ more =>
          cases more with
          | zero =>
              rw [List.replicate_one, List.singleton_append, List.infix_cons_iff]
              simp [not_doubleSpace_prefix_of_head whole.ends]
          | succ others =>
              have begins : doubleSpace <+: List.replicate (others + 2) ' ' ++ rest :=
                ⟨List.replicate others ' ' ++ rest, rfl⟩
              simp [begins.isInfix]

/-- There is a pair of spaces exactly when some gap is longer than one. -/
theorem doubleSpace_infix_iff
    {text : List Char}
    (spacesOnly : SpacesOnly text) :
    doubleSpace <:+: text ↔ 2 ≤ longestGap text := by
  induction text using stretch_induction with
  | nil =>
      decide
  | append isGap stretch rest whole inductionHypothesis =>
      obtain ⟨here, later⟩ := spacesOnly.of_append
      rw [whole.doubleSpace_infix_append here, inductionHypothesis later,
        whole.longestGap_append, le_max_iff]

/-- A text without a pair of spaces has one space in every gap. -/
theorem singleSpaced_eq_self
    {text : List Char}
    (spacesOnly : SpacesOnly text)
    (single : ¬doubleSpace <:+: text) :
    singleSpaced text = text := by
  induction text using stretch_induction with
  | nil =>
      rfl
  | append isGap stretch rest whole inductionHypothesis =>
      obtain ⟨here, later⟩ := spacesOnly.of_append
      rw [whole.doubleSpace_infix_append here, not_or] at single
      rw [whole.singleSpaced_append, inductionHypothesis later single.2]
      cases isGap with
      | false =>
          rfl
      | true =>
          have nonempty := List.length_pos_iff.mpr whole.nonempty
          have short : ¬2 ≤ stretch.length := single.1
          have length : stretch.length = 1 := by
            omega
          have isSpace := whole.eq_replicate here
          rw [length] at isSpace
          rw [isSpace]
          rfl

/-! ## All rounds -/

/--
A run of the loop: so many rounds, each over a text with two spaces together, lead to a
text with single spaces.
-/
inductive Rounds : Nat → List Char → List Char → Prop where
  | done
      {text : List Char}
      (single : ¬doubleSpace <:+: text) :
      Rounds 0 text text
  | again
      {count : Nat}
      {text result : List Char}
      (double : doubleSpace <:+: text)
      (later : Rounds count (halveSpaces text) result) :
      Rounds (count + 1) text result

namespace Rounds

variable {count : Nat} {text result : List Char}

/-- A run ends only when no pair of spaces is left. -/
theorem not_doubleSpace_infix
    (run : Rounds count text result) :
    ¬doubleSpace <:+: result := by
  induction run with
  | done single =>
      exact single
  | again _ _ inductionHypothesis =>
      exact inductionHypothesis

/-- A run makes no other white space. -/
theorem spacesOnly
    (run : Rounds count text result)
    (spacesOnly : SpacesOnly text) :
    SpacesOnly result := by
  induction run with
  | done _ =>
      exact spacesOnly
  | again _ _ inductionHypothesis =>
      exact inductionHypothesis spacesOnly.halveSpaces

/-- Any run of the loop ends with one space for each gap. -/
theorem eq_singleSpaced
    (run : Rounds count text result)
    (spacesOnly : SpacesOnly text) :
    result = singleSpaced text := by
  induction run with
  | done single =>
      exact (singleSpaced_eq_self spacesOnly single).symm
  | again _ _ inductionHypothesis =>
      rw [inductionHypothesis spacesOnly.halveSpaces, singleSpaced_halveSpaces spacesOnly]

end Rounds

/-- There are as many rounds as the longest gap can be halved before one space is left. -/
theorem rounds_collapse
    {text : List Char}
    (spacesOnly : SpacesOnly text) :
    Rounds (Nat.clog 2 (longestGap text)) text (collapse text) := by
  fun_induction collapse text with
  | case1 text occurs inductionHypothesis =>
      have double := occursIn_iff.mp occurs
      have long : 2 ≤ longestGap text := (doubleSpace_infix_iff spacesOnly).mp double
      -- The upper logarithm counts down as the loop does: by one when a gap is halved.
      have count :
          Nat.clog 2 (longestGap text) = Nat.clog 2 (longestGap (halveSpaces text)) + 1 := by
        rw [longestGap_halveSpaces spacesOnly]
        exact Nat.clog_of_two_le Nat.one_lt_two long
      rw [count]
      exact .again double (inductionHypothesis spacesOnly.halveSpaces)
  | case2 text absent =>
      have single : ¬doubleSpace <:+: text := fun double => absent (occursIn_iff.mpr double)
      have short : longestGap text ≤ 1 := by
        rw [doubleSpace_infix_iff spacesOnly] at single
        omega
      rw [Nat.clog_of_right_le_one short]
      exact .done single

/-! ## Normal spacing -/

/-- Normalizing turns white space into spaces, collapses the gaps and trims. -/
theorem toList_normalize (text : String) :
    (normalize text).toList = trimChars (collapse (text.toList.map spaced)) :=
  String.toList_ofList

/-- Text that is spaced normally is left alone. -/
theorem normalize_eq_self
    {text : String}
    (spacesOnly : SpacesOnly text.toList)
    (single : ¬doubleSpace <:+: text.toList)
    (trimmed : Trimmed text.toList text.toList) :
    normalize text = text := by
  have collapsed : collapse text.toList = text.toList := by
    rw [collapse, if_neg]
    exact fun occurs => single (occursIn_iff.mp occurs)
  rw [normalize, spacesOnly.map_spaced, collapsed, trimmed_iff.mp trimmed, String.ofList_toList]

/--
The loop of normalization ends after exactly as many rounds as the longest gap can be
halved, and what it leaves is trimmed.  The result is what trimming leaves of the text
with one space in place of each gap, and normalizing it again changes nothing.
-/
theorem normalize_trims_singleSpaced (text : String) :
    (∃ collapsed,
        Rounds (Nat.clog 2 (longestGap text.toList)) (text.toList.map spaced) collapsed ∧
          normalize text = trim (String.ofList collapsed)) ∧
      (∀ result,
        Trimmed (singleSpaced text.toList) result ↔ (normalize text).toList = result) ∧
      normalize (normalize text) = normalize text := by
  have spacesOnly := spacesOnly_map_spaced text.toList
  have run := rounds_collapse spacesOnly
  have collapsed := run.eq_singleSpaced spacesOnly
  rw [singleSpaced_map_spaced] at collapsed
  refine ⟨⟨collapse (text.toList.map spaced), ?_, ?_⟩, ?_, ?_⟩
  · rwa [longestGap_map_spaced] at run
  · rw [trim, String.toList_ofList, normalize]
  · intro result
    rw [toList_normalize, collapsed, trimmed_iff]
  · have trimmed := trimmed_trimChars (collapse (text.toList.map spaced))
    rw [← toList_normalize] at trimmed
    obtain ⟨front, back, whole, _⟩ := trimmed.around
    have inside : (normalize text).toList <:+: collapse (text.toList.map spaced) :=
      ⟨front, back, by rw [whole, List.append_assoc]⟩
    apply normalize_eq_self
    · intro c member
      exact run.spacesOnly spacesOnly c (inside.mem member)
    · intro double
      exact run.not_doubleSpace_infix (double.trans inside)
    · exact ⟨⟨[], [], by simp, by simp, by simp⟩, trimmed.first, trimmed.last⟩

example :
    longestGap "a &&\n\t  (b  c)".toList = 4 ∧
      singleSpaced "a &&\n\t  (b  c)".toList = "a && (b c)".toList := by
  decide

end WorkflowConditions.Text
