import WorkflowConditions.Proofs.Condition.Meaning
import WorkflowConditions.Proofs.Token.LiteralText

namespace WorkflowConditions.Condition

open Grammar (Derives Phrase chain)
open Token (IsLiteral)

/-!
# Reading what was written after reading

A tree that was read has literals for leaves.  Writing it puts a closing
parenthesis behind every leaf, unless the tree is a leaf itself, so a leaf that
is still open at its end takes that parenthesis into its own text.  This is the
only way in which a tree can fail to be read again.
-/

/-- A tree as reading gives it: single literals under connectives. -/
inductive Plain : Condition → Prop where
  | leaf
      {text : String}
      (literal : IsLiteral text) :
      Plain (.leaf text)
  | and
      {left right : Condition}
      (leftPlain : Plain left)
      (rightPlain : Plain right) :
      Plain (.and left right)
  | or
      {left right : Condition}
      (leftPlain : Plain left)
      (rightPlain : Plain right) :
      Plain (.or left right)
  | not
      {child : Condition}
      (childPlain : Plain child) :
      Plain (.not child)

/-- Tokens whose literals are single derive plain trees only. -/
theorem plain_of_derives
    {phrase : Phrase}
    {tokens : List Token}
    {tree : Condition}
    (derived : Derives phrase tokens tree)
    (literals :
      ∀ token ∈ tokens,
        token.kind = .literal →
        IsLiteral token.text) :
    tree.Plain := by
  induction derived with
  | literal isLiteral =>
      exact .leaf (literals _ (by simp) isLiteral)
  | group _ _ _ inductionHypothesis =>
      exact inductionHypothesis
        (fun token member => literals token (by simp [member]))
  | operand _ inductionHypothesis
  | negation _ inductionHypothesis
  | conjunction _ inductionHypothesis =>
      exact inductionHypothesis literals
  | not _ _ inductionHypothesis =>
      exact .not (inductionHypothesis
        (fun token member => literals token (by simp [member])))
  | and _ _ _ leftHypothesis rightHypothesis =>
      exact .and
        (leftHypothesis
          (fun token member => literals token (by simp [member])))
        (rightHypothesis
          (fun token member => literals token (by simp [member])))
  | or _ _ _ leftHypothesis rightHypothesis =>
      exact .or
        (leftHypothesis
          (fun token member => literals token (by simp [member])))
        (rightHypothesis
          (fun token member => literals token (by simp [member])))

/-- What is read is plain. -/
theorem plain_of_parse
    {source : String}
    {tree : Condition}
    (accepted : parse source = .ok tree) :
    tree.Plain :=
  plain_of_derives (parse_eq_ok_iff.mp accepted)
    (fun _ member isLiteral =>
      Token.isLiteral_of_mem_scanFrom member isLiteral)

namespace Plain

/-- A leaf is opaque, so a tree that was read has no call. -/
theorem isCall_eq_false
    {tree : Condition}
    (plain : tree.Plain) :
    tree.isCall = false := by
  cases plain <;>
    rfl

/-- A plain tree is read back as it is. -/
theorem readBack_eq
    {tree : Condition}
    (plain : tree.Plain) :
    tree.readBack = tree := by
  induction plain with
  | leaf _ =>
      rfl
  | and _ _ leftSame rightSame =>
      rw [readBack, disjuncts_and, leftSame, rightSame]
      rfl
  | or _ _ leftSame rightSame =>
      rw [readBack, disjuncts_or, leftSame, rightSame]
      rfl
  | not _ childSame =>
      rw [readBack, disjuncts_not, childSame]
      rfl

/-- A plain tree with closed leaves can be written without loss. -/
theorem wellBuilt
    {tree : Condition}
    (plain : tree.Plain)
    (closed : ∀ leaf ∈ tree.leaves, Text.Closed leaf.text.toList) :
    tree.WellBuilt := by
  induction plain with
  | @leaf text literal =>
      have scanned :
          Token.scan text =
            [⟨.literal, text, 0⟩, .atEnd text.length] := by
        rw [Token.scan_eq, literal]
        rfl
      exact ⟨scanned, closed ⟨text, ""⟩ (by simp [Condition.leaf, leaves])⟩
  | and _ _ leftHypothesis rightHypothesis
  | or _ _ leftHypothesis rightHypothesis =>
      rw [leaves] at closed
      exact ⟨
        leftHypothesis (fun leaf member => closed leaf (by simp [member])),
        rightHypothesis (fun leaf member => closed leaf (by simp [member]))⟩
  | not childPlain inductionHypothesis =>
      rw [leaves] at closed
      refine ⟨inductionHypothesis closed, ?_⟩
      simp [childPlain.isCall_eq_false]

end Plain

/-! ## The end of a written tree -/

/-- The last leaf of a tree has some text, and so many parentheses close it. -/
structure EndsIn
    (tree : Condition)
    (text : String)
    (closings : Nat) : Prop where
  last : tree.leaves.getLast? = some ⟨text, ""⟩
  written :
    text.toList ++ List.replicate closings ')' <:+ tree.render.toList

/-- Parentheses around a tree add one closing parenthesis behind its last leaf. -/
private theorem EndsIn.parenthesised
    {child tree : Condition}
    {text : String}
    {closings : Nat}
    (ends : EndsIn child text closings)
    (before : String)
    (last : tree.leaves.getLast? = some ⟨text, ""⟩)
    (shape : tree.render = before ++ child.render ++ ")") :
    EndsIn tree text (closings + 1) := by
  obtain ⟨earlier, written⟩ := ends.written
  refine ⟨last, before.toList ++ earlier, ?_⟩
  rw [shape, String.toList_append, String.toList_append, ← written,
    List.replicate_succ']
  simp

/-- Only a single leaf is written without a parenthesis behind its last leaf. -/
theorem Plain.exists_endsIn
    {tree : Condition}
    (plain : tree.Plain) :
    ∃ text closings,
      IsLiteral text ∧
        EndsIn tree text closings ∧
        (closings = 0 → tree = .leaf text) := by
  induction plain with
  | @leaf text literal =>
      refine ⟨text, 0, literal, ⟨rfl, ?_⟩, fun _ => rfl⟩
      simp [Condition.leaf, render]
  | @and left _ _ _ _ rightHypothesis =>
      obtain ⟨text, closings, literal, ends, _⟩ := rightHypothesis
      refine ⟨text, closings + 1, literal, ?_, by simp⟩
      exact ends.parenthesised ("(" ++ left.render ++ ") && (")
        (by simp [leaves, ends.last])
        (by rw [render])
  | @or left _ _ _ _ rightHypothesis =>
      obtain ⟨text, closings, literal, ends, _⟩ := rightHypothesis
      refine ⟨text, closings + 1, literal, ?_, by simp⟩
      exact ends.parenthesised ("(" ++ left.render ++ ") || (")
        (by simp [leaves, ends.last])
        (by rw [render])
  | not childPlain inductionHypothesis =>
      obtain ⟨text, closings, literal, ends, _⟩ := inductionHypothesis
      refine ⟨text, closings + 1, literal, ?_, by simp⟩
      exact ends.parenthesised "!("
        (by simp [leaves, ends.last])
        (by simp [render, childPlain.isCall_eq_false])

/-- A literal has a first character, and it closes nothing. -/
private theorem exists_head_of_isLiteral
    {text : String}
    (literal : IsLiteral text) :
    ∃ first rest, text.toList = first :: rest ∧ first ≠ ')' := by
  have tokens : Token.bareTokens text.toList = [⟨.literal, text, 0⟩] :=
    congrArg (List.map Token.bare) literal
  cases shape : text.toList with
  | nil =>
      rw [shape, Token.bareTokens_nil] at tokens
      cases tokens
  | cons first rest =>
      refine ⟨first, rest, rfl, ?_⟩
      rintro rfl
      rw [shape, Token.bareTokens_closing] at tokens
      cases tokens

/--
A text that begins with something else cannot be found again at its end when
closing parentheses are put behind it.
-/
private theorem eq_zero_of_suffix_closings
    {first : Char}
    {rest : List Char}
    {closings : Nat}
    (notClosing : first ≠ ')')
    (found :
      first :: rest <:+ (first :: rest) ++ List.replicate closings ')') :
    closings = 0 := by
  -- As many parentheses as were put behind make up the whole shift, so a shift
  -- that is not empty begins with one, and the text with it.
  obtain ⟨shift, whole⟩ := found
  have lengths := congrArg List.length whole
  have counts := congrArg (List.count ')') whole
  simp only [List.length_append, List.length_replicate,
    List.count_append, List.count_replicate_self] at lengths counts
  cases shift with
  | nil =>
      simp at lengths
      omega
  | cons head others =>
      have isFirst : head = first := by
        simpa using congrArg List.head? whole
      have bound := List.count_le_length (a := ')') (l := others)
      simp [isFirst, notClosing] at counts lengths
      omega

/-- No white space stands behind a closing parenthesis at the end. -/
private theorem eq_nil_of_spaces_end
    {before text spaces : List Char}
    (blank : ∀ c ∈ spaces, Text.isSpace c = true)
    (same : text ++ spaces = before ++ [')']) :
    spaces = [] := by
  rcases List.eq_nil_or_concat spaces with none | ⟨others, last, rfl⟩
  · exact none
  · rw [List.concat_eq_append, ← List.append_assoc] at same
    have isLast : last = ')' := by
      simpa using (List.append_inj' same rfl).2
    have space := blank last (by simp)
    rw [isLast] at space
    simp [Text.isSpace] at space

/-- A leaf that is read back from a tree with connectives is closed. -/
private theorem closed_of_parse_render
    {tree : Condition}
    {text : String}
    {closings : Nat}
    (literal : IsLiteral text)
    (ends : EndsIn tree text (closings + 1))
    (again : parse tree.render = .ok tree) :
    ∀ leaf ∈ tree.leaves, Text.Closed leaf.text.toList := by
  have leavesRead := (parse_eq_ok_iff.mp again).leaves_eq
  intro leaf member
  rw [leavesRead] at member
  obtain ⟨token, inTokens, isLeaf⟩ := List.mem_filterMap.mp member
  obtain ⟨isLiteral, rfl⟩ : token.kind = .literal ∧ leaf = ⟨token.text, ""⟩ := by
    simpa [Grammar.literalLeaf?, eq_comm] using isLeaf
  rcases Token.closed_or_last_of_mem_scanFrom inTokens isLiteral with
    closed | ⟨earlier, before, spaces, tokens, whole, blank⟩
  · exact closed
  · -- The open token is the last leaf, whose text the renderer has closed.
    exfalso
    have sameText : token.text = text := by
      have last := ends.last
      rw [leavesRead, Token.body, tokens] at last
      simpa [Grammar.literalLeaf?, isLiteral] using last
    rw [sameText] at whole
    have noSpaces : spaces = [] := by
      obtain ⟨outer, written⟩ := ends.written
      rw [whole, List.replicate_succ', ← List.append_assoc,
        ← List.append_assoc, ← List.append_assoc] at written
      exact eq_nil_of_spaces_end blank written.symm
    rw [noSpaces, List.append_nil] at whole
    have found : text.toList <:+ tree.render.toList := ⟨before, whole.symm⟩
    have shorter :=
      List.suffix_of_suffix_length_le found ends.written (by simp)
    obtain ⟨first, rest, shape, notClosing⟩ :=
      exists_head_of_isLiteral literal
    rw [shape] at shorter
    cases eq_zero_of_suffix_closings notClosing shorter

/--
A tree that was read is read again from its own text exactly when it is a single
leaf or all of its leaves are closed.
-/
theorem parse_render_eq_iff_closed
    {source : String}
    {tree : Condition}
    (accepted : parse source = .ok tree) :
    parse tree.render = .ok tree ↔
      (∃ text description, tree = .expression text description) ∨
        ∀ leaf ∈ tree.leaves, Text.Closed leaf.text.toList := by
  have plain := plain_of_parse accepted
  constructor
  · intro again
    obtain ⟨text, closings, literal, ends, single⟩ := plain.exists_endsIn
    cases closings with
    | zero =>
        exact .inl ⟨text, "", single rfl⟩
    | succ closings =>
        exact .inr (closed_of_parse_render literal ends again)
  · rintro (⟨text, description, rfl⟩ | closed)
    · cases plain with
      | leaf literal =>
          apply parse_eq_ok_iff.mpr
          rw [render, literal]
          exact Derives.toDisjunction (.literal rfl)
    · have again := parse_render_of_wellBuilt (plain.wellBuilt closed)
      rwa [plain.readBack_eq] at again

/-- An open quotation is lost beside a connective; a closed one is not. -/
theorem parse_render_eq_iff_closed_of_quotations :
    (parse "a && !'b" = .ok (.and (.leaf "a") (.not (.leaf "'b"))) ∧
        parse (render (.and (.leaf "a") (.not (.leaf "'b")))) ≠
          .ok (.and (.leaf "a") (.not (.leaf "'b")))) ∧
      parse "a && !f(')')" = .ok (.and (.leaf "a") (.not (.leaf "f(')')"))) ∧
        parse (render (.and (.leaf "a") (.not (.leaf "f(')')")))) =
          .ok (.and (.leaf "a") (.not (.leaf "f(')')"))) := by
  have openScanned :
      Token.body "a && !'b" =
        [⟨.literal, "a", 0⟩, ⟨.and, "&&", 2⟩, ⟨.not, "!", 5⟩,
          ⟨.literal, "'b", 6⟩] := by
    decide +kernel
  have openAccepted :
      parse "a && !'b" = .ok (.and (.leaf "a") (.not (.leaf "'b"))) :=
    parse_eq_ok_of_run openScanned rfl
  have closedScanned :
      Token.body "a && !f(')')" =
        [⟨.literal, "a", 0⟩, ⟨.and, "&&", 2⟩, ⟨.not, "!", 5⟩,
          ⟨.literal, "f(')')", 6⟩] := by
    decide +kernel
  have closedAccepted :
      parse "a && !f(')')" = .ok (.and (.leaf "a") (.not (.leaf "f(')')"))) :=
    parse_eq_ok_of_run closedScanned rfl
  refine ⟨⟨openAccepted, ?_⟩, closedAccepted, ?_⟩
  · rw [ne_eq, parse_render_eq_iff_closed openAccepted]
    rintro (⟨_, _, single⟩ | closed)
    · cases single
    · have quotation := closed ⟨"'b", ""⟩ (by decide)
      revert quotation
      decide
  · apply (parse_render_eq_iff_closed closedAccepted).mpr
    right
    decide +kernel

end WorkflowConditions.Condition
