import WorkflowConditions.Condition.Build
import WorkflowConditions.Condition.Render
import WorkflowConditions.Proofs.Condition.Recognition
import WorkflowConditions.Proofs.Token.LiteralText

namespace WorkflowConditions

/-!
# Conjunctions of raw texts

Two raw conditions are joined by writing each of them in parentheses, unread, with
`&&` between them.  Only a quotation or a parenthesis that is still open at the end
of one of them can reach into what was written around it.  Where the last literals
are closed, the parentheses keep the operators of the two texts apart, and what is
read is the conjunction of what the two texts are read as.
-/

open Grammar (Sentence)

/-- Two sentences in parentheses are the conjuncts of one sentence. -/
theorem Grammar.sentence_and_groups
    {firstTokens secondTokens : List Token}
    {first second : Condition}
    (firstDerived : Sentence firstTokens first)
    (secondDerived : Sentence secondTokens second) :
    Sentence
      ((⟨.leftParen, "(", 0⟩ :: (firstTokens ++ [⟨.rightParen, ")", 0⟩])) ++
        ⟨.and, "&&", 0⟩ ::
          (⟨.leftParen, "(", 0⟩ :: (secondTokens ++ [⟨.rightParen, ")", 0⟩])))
      (.and first second) :=
  .conjunction
    (.and (.negation (.operand firstDerived.parenthesised)) rfl
      (.operand secondDerived.parenthesised))

namespace Condition

/-- A text that is read as a condition is not blank. -/
theorem isBlankText_eq_false_of_parse
    {source : String}
    {tree : Condition}
    (accepted : parse source = .ok tree) :
    Text.isBlankText source = false := by
  cases blank : Text.isBlankText source with
  | false =>
      rfl
  | true =>
      rw [parse, if_pos blank] at accepted
      cases accepted

/-- A blank condition adds nothing to the other one. -/
theorem render_conjoinTexts_of_blank
    {existing : String}
    (extra : String)
    (blank : Text.isBlankText existing = true) :
    (conjoinTexts existing extra).render = extra := by
  rw [conjoinTexts, if_pos blank]
  rfl

/-- The text of a conjunction puts both conditions in parentheses. -/
theorem toList_render_conjoinTexts
    {existing : String}
    (extra : String)
    (visible : Text.isBlankText existing = false) :
    (conjoinTexts existing extra).render.toList =
      '(' :: (existing.toList ++
        ')' :: ' ' :: '&' :: '&' :: ' ' :: '(' :: (extra.toList ++ [')'])) := by
  have written :
      (Condition.and (.leaf existing) (.leaf extra)).render =
        "(" ++ existing ++ ") && (" ++ extra ++ ")" :=
    rfl
  rw [conjoinTexts, visible, if_neg Bool.false_ne_true, written]
  simp

/--
Two texts that are read as conditions, and whose last literals are closed, are read
together as the conjunction of the two conditions.  Beside a blank text the other
one is read as if it stood alone.
-/
theorem parse_render_conjoinTexts :
    (∀ (existing extra : String) (first second : Condition),
        parse existing = .ok first →
        parse extra = .ok second →
        Token.ClosedAtEnd existing →
        Token.ClosedAtEnd extra →
        parse (conjoinTexts existing extra).render = .ok (.and first second)) ∧
      ∀ existing extra : String,
        Text.isBlankText existing = true →
        parse (conjoinTexts existing extra).render = parse extra := by
  constructor
  · intro existing extra first second firstRead secondRead firstClosed secondClosed
    have scanned :=
      firstClosed.settled.bareTokens_pair secondClosed.settled
        Token.bareTokens_spaced_and
    rw [← toList_render_conjoinTexts extra (isBlankText_eq_false_of_parse firstRead)]
      at scanned
    rw [parse_eq_ok_iff_bareTokens] at firstRead secondRead ⊢
    rw [scanned]
    exact Grammar.sentence_and_groups firstRead secondRead
  · intro existing extra blank
    rw [render_conjoinTexts_of_blank extra blank]

/-- A disjunction stays under the conjunction that it is put into. -/
theorem parse_render_conjoinTexts_of_disjunction :
    parse (conjoinTexts "a || b" "!f(')') ").render =
        .ok (.and (.or (.leaf "a") (.leaf "b")) (.not (.leaf "f(')')"))) ∧
      parse (conjoinTexts " " "a || b").render =
        .ok (.or (.leaf "a") (.leaf "b")) := by
  have disjunctionScanned :
      Token.body "a || b" =
        [⟨.literal, "a", 0⟩, ⟨.or, "||", 2⟩, ⟨.literal, "b", 5⟩] := by
    decide +kernel
  have disjunctionRead : parse "a || b" = .ok (.or (.leaf "a") (.leaf "b")) :=
    parse_eq_ok_of_run disjunctionScanned rfl
  have callScanned :
      Token.body "!f(')') " = [⟨.not, "!", 0⟩, ⟨.literal, "f(')')", 1⟩] := by
    decide +kernel
  have callRead : parse "!f(')') " = .ok (.not (.leaf "f(')')")) :=
    parse_eq_ok_of_run callScanned rfl
  have disjunctionClosed : Token.ClosedAtEnd "a || b" := by
    rw [Token.ClosedAtEnd,
      Token.lastLiteral?_of_body_eq_concat
        [⟨.literal, "a", 0⟩, ⟨.or, "||", 2⟩] disjunctionScanned rfl]
    decide
  have callClosed : Token.ClosedAtEnd "!f(')') " := by
    rw [Token.ClosedAtEnd,
      Token.lastLiteral?_of_body_eq_concat [⟨.not, "!", 0⟩] callScanned rfl]
    decide
  obtain ⟨joined, alone⟩ := parse_render_conjoinTexts
  refine ⟨?_, ?_⟩
  · exact joined _ _ _ _ disjunctionRead callRead disjunctionClosed callClosed
  · rw [alone " " "a || b" (by decide), disjunctionRead]

end Condition

end WorkflowConditions
