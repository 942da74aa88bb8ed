import WorkflowConditions.Proofs.Condition.Recognition
import WorkflowConditions.Proofs.Layout.Segmentation

namespace WorkflowConditions

open Text (Cell cells isSpace solid)
open Grammar (Phrase Derives Sentence)
open Token (Respaced bareTokens connective?)

/-!
# Broken conditions are read alike

Lines that are put one below the other differ from the text they were cut from in
white space behind connectives, at the beginning and at the end.  Their tokens are
therefore alike, and tokens that are alike derive trees that are alike.
-/

namespace Layout

/-- Lines one below the other. -/
def joined (lines : List (List Char)) : List Char :=
  ['\n'].intercalate lines

/-- Behind a connective the white space may differ. -/
theorem EndsAtConnective.respaced
    {front first second : List Cell}
    (ends : EndsAtConnective front)
    (fresh : Bool)
    (later : Respaced true first second) :
    Respaced fresh (front ++ first) (front ++ second) := by
  induction ends generalizing fresh with
  | here joins =>
      exact .connective joins later
  | @keep cell rest alone restEnds inductionHypothesis =>
      exact .keep
        ((connective?_append_of_ne_nil cell restEnds.ne_nil first).trans alone)
        (inductionHypothesis false)
  | past joins _ inductionHypothesis =>
      exact .connective joins (inductionHypothesis true)

/-- White space where it does not count can be dropped. -/
theorem respaced_spaces_append
    {spaces rest : List Char}
    {second : List Cell}
    (blank : ∀ c ∈ spaces, isSpace c = true)
    (later : Respaced true (cells rest) second) :
    Respaced true (cells (spaces ++ rest)) second := by
  induction spaces with
  | nil =>
      exact later
  | cons c others inductionHypothesis =>
      have space := blank c (by simp)
      have afterSpace :=
        inductionHypothesis (fun item member => blank item (by simp [member]))
      rw [List.cons_append,
        Text.cells_cons_of_unmarked (Text.isQuotationMark_of_isSpace space)]
      exact .skipFirst space rfl afterSpace

/-- A new line in front of the next line is white space behind a connective. -/
theorem exists_joined_cons
    (line : List Char)
    {first : List Cell}
    {lines : List (List Char)}
    (later : Respaced true first (cells (joined lines))) :
    ∃ behind,
      joined (line :: lines) = line ++ behind ∧
        Respaced true first (cells behind) := by
  by_cases nothing : lines = []
  · subst nothing
    exact ⟨[], by simp [joined], later⟩
  · refine ⟨'\n' :: joined lines, ?_, ?_⟩
    · rw [joined, List.intercalate_cons_of_ne_nil nothing, List.append_assoc]
      rfl
    · rw [Text.cells_cons_of_unmarked (by decide)]
      exact .skipSecond (by decide) rfl later

/-- Broken lines differ from their text in white space behind connectives only. -/
theorem Broken.exists_respaced
    {text : List Char}
    {lines : List (List Char)}
    (broken : Broken text lines) :
    ∃ core trail,
      text = core ++ trail ∧
        (∀ c ∈ trail, isSpace c = true) ∧
        Respaced true (cells core) (cells (joined lines)) := by
  induction broken with
  | @blank text textBlank =>
      exact ⟨[], text, rfl, textBlank, .nil⟩
  | @last lead line trail leadBlank _ trailBlank =>
      refine ⟨lead ++ line, trail, by simp, trailBlank, ?_⟩
      have alone : joined [line] = line := by
        simp [joined]
      rw [alone]
      exact respaced_spaces_append leadBlank (.refl true (cells line))
  | @cons lead line rest lines leadBlank _ ends _ inductionHypothesis =>
      obtain ⟨core, trail, rfl, trailBlank, later⟩ := inductionHypothesis
      obtain ⟨behind, shape, behindRespaced⟩ := exists_joined_cons line later
      refine ⟨lead ++ (line ++ core), trail, by simp, trailBlank, ?_⟩
      apply respaced_spaces_append leadBlank
      rw [shape, ends.cells_append, ends.cells_append]
      exact ends.respaced true behindRespaced

/-- A line end in place of the white space between two lines keeps all tokens. -/
theorem Broken.alike
    {text : List Char}
    {lines : List (List Char)}
    (broken : Broken text lines) :
    List.Forall₂ Token.Alike (bareTokens text) (bareTokens (joined lines)) := by
  obtain ⟨core, trail, rfl, trailBlank, respaced⟩ := broken.exists_respaced
  rw [Token.bareTokens_append_spaces core trailBlank]
  exact respaced.alike

/-- The lines of a text have the tokens of the text. -/
theorem alike_lines
    (widths : Widths)
    (text : List Char) :
    List.Forall₂ Token.Alike (bareTokens text)
      (bareTokens (joined (lines widths text))) := by
  by_cases short : (text.length : Int) ≤ widths.line
  · have same : joined (lines widths text) = text := by
      simp [lines, short, joined]
    rw [same, List.forall₂_same]
    exact fun _ _ => ⟨rfl, rfl⟩
  · exact (broken_lines (Int.not_le.mp short)).alike

end Layout

/-! ## From tokens to trees -/

/-- Trees of one shape whose leaves differ in white space outside quotations only. -/
inductive Condition.Alike : Condition → Condition → Prop where
  | leaf
      {first second : String}
      (same : solid first.toList = solid second.toList) :
      Alike (.leaf first) (.leaf second)
  | and
      {firstLeft firstRight secondLeft secondRight : Condition}
      (left : Alike firstLeft secondLeft)
      (right : Alike firstRight secondRight) :
      Alike (.and firstLeft firstRight) (.and secondLeft secondRight)
  | or
      {firstLeft firstRight secondLeft secondRight : Condition}
      (left : Alike firstLeft secondLeft)
      (right : Alike firstRight secondRight) :
      Alike (.or firstLeft firstRight) (.or secondLeft secondRight)
  | not
      {first second : Condition}
      (inner : Alike first second) :
      Alike (.not first) (.not second)

theorem Token.Alike.symm
    {first second : Token}
    (alike : Token.Alike first second) :
    Token.Alike second first :=
  ⟨alike.kind.symm, alike.text.symm⟩

/-- Tokens like those of two parts fall into two such parts. -/
private theorem exists_append_of_alike
    {others front back : List Token}
    (alike : List.Forall₂ Token.Alike others (front ++ back)) :
    ∃ otherFront otherBack,
      others = otherFront ++ otherBack ∧
        List.Forall₂ Token.Alike otherFront front ∧
        List.Forall₂ Token.Alike otherBack back :=
  ⟨others.take front.length, others.drop front.length,
    (List.take_append_drop _ _).symm,
    List.forall₂_take_append _ _ _ alike, List.forall₂_drop_append _ _ _ alike⟩

/--
Tokens like those of two parts around a connective fall into two such parts around a
connective of the same kind.
-/
private theorem exists_joined_of_alike
    {connective : Token}
    {others front back : List Token}
    (alike : List.Forall₂ Token.Alike others (front ++ connective :: back)) :
    ∃ otherFront otherConnective otherBack,
      others = otherFront ++ otherConnective :: otherBack ∧
        List.Forall₂ Token.Alike otherFront front ∧
        otherConnective.kind = connective.kind ∧
        List.Forall₂ Token.Alike otherBack back := by
  obtain ⟨otherFront, otherRest, rfl, frontAlike, restAlike⟩ :=
    exists_append_of_alike alike
  obtain ⟨otherConnective, otherBack, connectiveAlike, backAlike, rfl⟩ :=
    List.forall₂_cons_right_iff.mp restAlike
  exact ⟨otherFront, otherConnective, otherBack, rfl, frontAlike,
    connectiveAlike.kind, backAlike⟩

/-- Tokens that are alike derive trees that are alike. -/
theorem Grammar.Derives.exists_alike
    {phrase : Phrase}
    {tokens others : List Token}
    {tree : Condition}
    (derived : Derives phrase tokens tree)
    (alike : List.Forall₂ Token.Alike others tokens) :
    ∃ other, Derives phrase others other ∧ other.Alike tree := by
  induction derived generalizing others with
  | literal isLiteral =>
      obtain ⟨token, _, tokenAlike, nothing, rfl⟩ :=
        List.forall₂_cons_right_iff.mp alike
      cases nothing
      exact ⟨.leaf token.text, .literal (tokenAlike.kind.trans isLiteral),
        .leaf tokenAlike.text⟩
  | group opens _ closes inductionHypothesis =>
      obtain ⟨opening, rest, openingAlike, restAlike, rfl⟩ :=
        List.forall₂_cons_right_iff.mp alike
      obtain ⟨inner, closing, _, rfl, innerAlike, closingKind, nothing⟩ :=
        exists_joined_of_alike restAlike
      cases nothing
      obtain ⟨other, otherDerived, otherAlike⟩ := inductionHypothesis innerAlike
      exact ⟨other,
        .group (openingAlike.kind.trans opens) otherDerived (closingKind.trans closes),
        otherAlike⟩
  | operand _ inductionHypothesis =>
      obtain ⟨other, otherDerived, otherAlike⟩ := inductionHypothesis alike
      exact ⟨other, .operand otherDerived, otherAlike⟩
  | not negates _ inductionHypothesis =>
      obtain ⟨negator, inner, negatorAlike, innerAlike, rfl⟩ :=
        List.forall₂_cons_right_iff.mp alike
      obtain ⟨other, otherDerived, otherAlike⟩ := inductionHypothesis innerAlike
      exact ⟨.not other, .not (negatorAlike.kind.trans negates) otherDerived,
        .not otherAlike⟩
  | negation _ inductionHypothesis =>
      obtain ⟨other, otherDerived, otherAlike⟩ := inductionHypothesis alike
      exact ⟨other, .negation otherDerived, otherAlike⟩
  | and _ joins _ leftHypothesis rightHypothesis =>
      obtain ⟨leftTokens, connective, rightTokens, rfl, leftAlike, kind, rightAlike⟩ :=
        exists_joined_of_alike alike
      obtain ⟨left, leftDerived, leftTreeAlike⟩ := leftHypothesis leftAlike
      obtain ⟨right, rightDerived, rightTreeAlike⟩ := rightHypothesis rightAlike
      exact ⟨.and left right, .and leftDerived (kind.trans joins) rightDerived,
        .and leftTreeAlike rightTreeAlike⟩
  | conjunction _ inductionHypothesis =>
      obtain ⟨other, otherDerived, otherAlike⟩ := inductionHypothesis alike
      exact ⟨other, .conjunction otherDerived, otherAlike⟩
  | or _ joins _ leftHypothesis rightHypothesis =>
      obtain ⟨leftTokens, connective, rightTokens, rfl, leftAlike, kind, rightAlike⟩ :=
        exists_joined_of_alike alike
      obtain ⟨left, leftDerived, leftTreeAlike⟩ := leftHypothesis leftAlike
      obtain ⟨right, rightDerived, rightTreeAlike⟩ := rightHypothesis rightAlike
      exact ⟨.or left right, .or leftDerived (kind.trans joins) rightDerived,
        .or leftTreeAlike rightTreeAlike⟩

/-- Texts with like tokens are read as like trees. -/
theorem Condition.exists_parse_alike
    {source other : String}
    {tree : Condition}
    (alike : List.Forall₂ Token.Alike (Token.body other) (Token.body source))
    (accepted : parse source = .ok tree) :
    ∃ otherTree, parse other = .ok otherTree ∧ otherTree.Alike tree := by
  obtain ⟨otherTree, derived, treesAlike⟩ :=
    (parse_eq_ok_iff.mp accepted).exists_alike alike
  exact ⟨otherTree, parse_eq_ok_iff.mpr derived, treesAlike⟩

namespace Layout

/-- A text that fits is left alone, so in both cases the tokens are alike. -/
theorem alike_body
    (widths : Widths)
    (source : String) :
    List.Forall₂ Token.Alike
      (Token.body (String.intercalate "\n" (breakLines widths source)))
      (Token.body source) := by
  have shape :
      (String.intercalate "\n" (breakLines widths source)).toList =
        joined (lines widths source.toList) := by
    rw [String.toList_intercalate, breakLines, List.map_map]
    simp [joined, Function.comp_def]
  have bareAlike := alike_lines widths source.toList
  rw [← shape, bareTokens, bareTokens, List.forall₂_map_left_iff,
    List.forall₂_map_right_iff] at bareAlike
  apply List.Forall₂.flip
  exact bareAlike.imp (fun _ _ alike => ⟨alike.kind.symm, alike.text.symm⟩)

/--
Breaking a condition into lines, whatever the widths, changes neither the kinds of
its tokens nor, up to white space outside quotations, their texts.  The broken
condition is accepted exactly when the condition is, with a tree of the same shape.
-/
theorem breakLines_keeps_condition
    (widths : Widths)
    (source : String) :
    List.Forall₂ Token.Alike
        (Token.scan (String.intercalate "\n" (breakLines widths source)))
        (Token.scan source) ∧
      ((∃ tree,
          Condition.parse (String.intercalate "\n" (breakLines widths source)) =
            .ok tree) ↔
        ∃ tree, Condition.parse source = .ok tree) ∧
      ∀ broken tree,
        Condition.parse (String.intercalate "\n" (breakLines widths source)) =
          .ok broken →
        Condition.parse source = .ok tree →
        broken.Alike tree := by
  have alike := alike_body widths source
  generalize String.intercalate "\n" (breakLines widths source) = text at alike
  have forward := fun tree => @Condition.exists_parse_alike source text tree alike
  have alikeBack := alike.imp (fun _ _ => Token.Alike.symm)
  refine ⟨?_, ⟨?_, ?_⟩, ?_⟩
  · rw [Token.scan_eq, Token.scan_eq]
    exact List.rel_append alike (.cons ⟨rfl, rfl⟩ .nil)
  · rintro ⟨tree, accepted⟩
    obtain ⟨other, otherAccepted, _⟩ :=
      @Condition.exists_parse_alike text source tree alikeBack.flip accepted
    exact ⟨other, otherAccepted⟩
  · rintro ⟨tree, accepted⟩
    obtain ⟨other, otherAccepted, _⟩ := forward tree accepted
    exact ⟨other, otherAccepted⟩
  · intro broken tree brokenAccepted accepted
    obtain ⟨other, otherAccepted, treesAlike⟩ := forward tree accepted
    rw [brokenAccepted] at otherAccepted
    rwa [Except.ok.inj otherAccepted]

/-- A line may end inside a call; the quotation there keeps its blanks and its sign. -/
theorem breakLines_keeps_condition_of_call :
    breakLines ⟨4, 2, 2⟩ "f(a ||  'b  && c') |||d" =
        ["f(a ||", "'b  && c') ||", "|d"] ∧
      Condition.Alike
        (.or (.leaf "f(a ||\n'b  && c')") (.leaf "|d"))
        (.or (.leaf "f(a ||  'b  && c')") (.leaf "|d")) := by
  have lines :
      breakLines ⟨4, 2, 2⟩ "f(a ||  'b  && c') |||d" =
        ["f(a ||", "'b  && c') ||", "|d"] := by
    decide +kernel
  have scanned :
      Token.body "f(a ||  'b  && c') |||d" =
        [⟨.literal, "f(a ||  'b  && c')", 0⟩, ⟨.or, "||", 19⟩,
          ⟨.literal, "|d", 21⟩] := by
    decide +kernel
  have scannedBroken :
      Token.body
          (String.intercalate "\n"
            (breakLines ⟨4, 2, 2⟩ "f(a ||  'b  && c') |||d")) =
        [⟨.literal, "f(a ||\n'b  && c')", 0⟩, ⟨.or, "||", 18⟩,
          ⟨.literal, "|d", 21⟩] := by
    rw [lines]
    decide +kernel
  obtain ⟨_, _, treesAlike⟩ :=
    breakLines_keeps_condition ⟨4, 2, 2⟩ "f(a ||  'b  && c') |||d"
  exact ⟨lines,
    treesAlike _ _
      (Condition.parse_eq_ok_of_run scannedBroken rfl)
      (Condition.parse_eq_ok_of_run scanned rfl)⟩

end Layout

end WorkflowConditions
