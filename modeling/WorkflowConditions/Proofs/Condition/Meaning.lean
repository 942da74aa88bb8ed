import WorkflowConditions.Proofs.Condition.Recognition
import WorkflowConditions.Proofs.Condition.Tree

namespace WorkflowConditions.Condition

open Grammar (Derives Alternatives chain)
open Token (Settled bareTokens)

/-!
# Written conditions keep their meaning

A tree of connectives over atoms is written with parentheses in some places and
relies on precedence in the others, so the tree that is read back may have
another shape: alternatives are put in one chain that nests to the left, and
groups disappear.  `readBack` is that tree.  It has the same atoms in the same
order, and the same truth value under every assignment.
-/

/--
Truth value of a condition when every atom, known by its text, has one.  Any node
that is no connective is an atom.
-/
def truth
    (assignment : String → Bool)
    (condition : Condition) :
    Bool :=
  condition.evaluate fun atom => assignment atom.render

section Truth

variable (assignment : String → Bool)

theorem truth_and (left right : Condition) :
    (Condition.and left right).truth assignment =
      (left.truth assignment && right.truth assignment) := by
  simp only [truth, evaluate]

theorem truth_or (left right : Condition) :
    (Condition.or left right).truth assignment =
      (left.truth assignment || right.truth assignment) := by
  simp only [truth, evaluate]

theorem truth_not (child : Condition) :
    (Condition.not child).truth assignment = !child.truth assignment := by
  simp only [truth, evaluate]

/-- Parentheses do not change the truth value. -/
theorem truth_group (child : Condition) :
    (Condition.group child).truth assignment = child.truth assignment := by
  simp only [truth, evaluate]

/-- Alternatives are true when one of them is, on lines or not. -/
theorem truth_anyOf
    (terms : List Condition)
    (multiline : Bool) :
    (Condition.anyOf terms multiline).truth assignment =
      terms.any (·.truth assignment) := by
  simp only [truth, evaluate, evaluateAny_eq_any]

end Truth

mutual

/-- Texts of the atoms of a condition, from left to right. -/
def atoms : Condition → List String
  | .and left right => left.atoms ++ right.atoms
  | .or left right => left.atoms ++ right.atoms
  | .not child => child.atoms
  | .group child => child.atoms
  | .anyOf terms _ => atomsOfEach terms
  | atom => [atom.render]

/-- Texts of the atoms of several conditions. -/
def atomsOfEach : List Condition → List String
  | [] => []
  | condition :: others => condition.atoms ++ atomsOfEach others

end

/-- A text that is scanned as one literal and is closed. -/
structure AtomText (text : String) : Prop where
  scanned : Token.scan text = [⟨.literal, text, 0⟩, .atEnd text.length]
  closed : Text.Closed text.toList

/-- No comment line is written above a term. -/
def Undescribed (term : Condition) : Prop :=
  ∀ text description,
    term = .expression text description →
    description = ""

mutual

/--
A tree of connectives over atoms that can be written without loss.

Every list of alternatives has a term, terms on lines of their own have no
comments, and the text of a negated call does not turn its negation into `!=`.
-/
def WellBuilt : Condition → Prop
  | .and left right => left.WellBuilt ∧ right.WellBuilt
  | .or left right => left.WellBuilt ∧ right.WellBuilt
  | .not child =>
      child.WellBuilt ∧
        (child.isCall = true → child.render.toList.head? ≠ some '=')
  | .group child => child.WellBuilt
  | .anyOf terms multiline =>
      terms ≠ [] ∧
        (multiline = true → ∀ term ∈ terms, term.Undescribed) ∧
        EachWellBuilt terms
  | atom => AtomText atom.render

/-- Each of some conditions can be written without loss. -/
def EachWellBuilt : List Condition → Prop
  | [] => True
  | condition :: others => condition.WellBuilt ∧ EachWellBuilt others

end

mutual

/-- The alternatives at the top of the tree that is read back. -/
def disjuncts : Condition → List Condition
  | .and left right => [.and (chain left.disjuncts) (chain right.disjuncts)]
  | .or left right => [chain left.disjuncts, chain right.disjuncts]
  | .not child => [.not (chain child.disjuncts)]
  | .group child => [chain child.disjuncts]
  | .anyOf terms _ => disjunctsOfEach terms
  | atom => [.leaf atom.render]

/-- The alternatives of several conditions. -/
def disjunctsOfEach : List Condition → List Condition
  | [] => []
  | condition :: others => condition.disjuncts ++ disjunctsOfEach others

end

/-- Whether a node combines conditions; any other node is an atom. -/
def isConnective : Condition → Bool
  | .and _ _ | .or _ _ | .not _ | .group _ | .anyOf _ _ => true
  | _ => false

/-- What the definitions above make of an atom. -/
theorem atom_equations
    {condition : Condition}
    (noConnective : condition.isConnective = false) :
    condition.disjuncts = [.leaf condition.render] ∧
      condition.atoms = [condition.render] ∧
      ∀ assignment,
        condition.truth assignment = assignment condition.render := by
  cases condition <;>
    simp_all [isConnective, disjuncts, atoms, truth, evaluate]

/-- The tree that is read back from a written condition. -/
def readBack (condition : Condition) : Condition :=
  chain condition.disjuncts

/-- A conjunction is one alternative, made of what both sides are read back as. -/
theorem disjuncts_and (left right : Condition) :
    disjuncts (.and left right) = [.and left.readBack right.readBack] :=
  rfl

/-- Both sides of a disjunction stand in parentheses, so it adds two alternatives. -/
theorem disjuncts_or (left right : Condition) :
    disjuncts (.or left right) = [left.readBack, right.readBack] :=
  rfl

theorem disjuncts_not (child : Condition) :
    disjuncts (.not child) = [.not child.readBack] :=
  rfl

theorem disjuncts_group (child : Condition) :
    disjuncts (.group child) = [child.readBack] :=
  rfl

/-! ## What is read back -/

/-- A chain is true when one of its members is. -/
theorem truth_chain
    (assignment : String → Bool)
    {trees : List Condition}
    (nonempty : trees ≠ []) :
    (chain trees).truth assignment = trees.any (·.truth assignment) := by
  cases trees with
  | nil =>
      exact (nonempty rfl).elim
  | cons first others =>
      rw [chain, List.any_cons]
      clear nonempty
      induction others generalizing first with
      | nil =>
          simp
      | cons second later inductionHypothesis =>
          rw [List.foldl_cons, inductionHypothesis, List.any_cons, truth_or,
            Bool.or_assoc]

/-- A chain has the leaves of its members, in their order. -/
theorem leaves_chain
    {trees : List Condition}
    (nonempty : trees ≠ []) :
    (chain trees).leaves = trees.flatMap leaves := by
  cases trees with
  | nil =>
      exact (nonempty rfl).elim
  | cons first others =>
      rw [chain, List.flatMap_cons]
      clear nonempty
      induction others generalizing first with
      | nil =>
          simp
      | cons second later inductionHypothesis =>
          rw [List.foldl_cons, inductionHypothesis, List.flatMap_cons,
            leaves, List.append_assoc]

/--
What scanning and reading find in the text of a condition: closed literals, the
tokens of its alternatives, its atoms and its truth value.
-/
structure ReadsAs (condition : Condition) : Prop where
  settled : Settled condition.render.toList
  alternatives :
    Alternatives (bareTokens condition.render.toList) condition.disjuncts
  leaves :
    condition.disjuncts.flatMap Condition.leaves =
      condition.atoms.map fun text => ⟨text, ""⟩
  truth :
    ∀ assignment,
      condition.disjuncts.any (·.truth assignment) =
        condition.truth assignment

namespace ReadsAs

/-- The condition in parentheses is one operand, its tree read back. -/
theorem derivesGroup
    {condition : Condition}
    (reads : ReadsAs condition) :
    Derives .operand
      (⟨.leftParen, "(", 0⟩ ::
        (bareTokens condition.render.toList ++ [⟨.rightParen, ")", 0⟩]))
      condition.readBack :=
  reads.alternatives.derives.parenthesised

/-- What is read back has the same truth value. -/
theorem truth_readBack
    {condition : Condition}
    (reads : ReadsAs condition)
    (assignment : String → Bool) :
    condition.readBack.truth assignment = condition.truth assignment :=
  (truth_chain assignment reads.alternatives.ne_nil).trans
    (reads.truth assignment)

/-- What is read back has the atoms as its leaves, in their order. -/
theorem leaves_readBack
    {condition : Condition}
    (reads : ReadsAs condition) :
    condition.readBack.leaves =
      condition.atoms.map fun text => ⟨text, ""⟩ :=
  (leaves_chain reads.alternatives.ne_nil).trans reads.leaves

end ReadsAs

/-! ## One kind of node at a time -/

/-- A text is settled when the literals among its tokens are closed. -/
private theorem settled_of_bareTokens
    {text : List Char}
    {tokens : List Token}
    (scanned : bareTokens text = tokens)
    (closed :
      ∀ token ∈ tokens,
        token.kind = .literal →
        Text.Closed token.text.toList) :
    Settled text := by
  rw [Settled, scanned]
  exact closed

/-- The text of an atom is one literal. -/
private theorem AtomText.bareTokens_eq
    {text : String}
    (atom : AtomText text) :
    bareTokens text.toList = [⟨.literal, text, 0⟩] := by
  have body : Token.body text = [⟨.literal, text, 0⟩] :=
    List.append_cancel_right ((Token.scan_eq text).symm.trans atom.scanned)
  exact congrArg (List.map Token.bare) body

/-- An atom is read back as the leaf of its text. -/
private theorem readsAs_atom
    {condition : Condition}
    (noConnective : condition.isConnective = false)
    (atom : AtomText condition.render) :
    ReadsAs condition := by
  obtain ⟨disjuncts, atoms, truth⟩ := atom_equations noConnective
  refine ⟨?_, ?_, ?_, ?_⟩
  · apply settled_of_bareTokens atom.bareTokens_eq
    intro token member _
    rw [List.mem_singleton.mp member]
    exact atom.closed
  · rw [atom.bareTokens_eq, disjuncts]
    exact .single (.negation (.operand (.literal rfl)))
  · rw [disjuncts, atoms]
    rfl
  · intro assignment
    rw [disjuncts, truth]
    simp [leaf, Condition.truth, evaluate, render]

/-- A group is read back as its content; the parentheses leave no node. -/
private theorem readsAs_group
    {child : Condition}
    (reads : ReadsAs child) :
    ReadsAs (.group child) := by
  have written :
      (render (.group child)).toList =
        '(' :: (child.render.toList ++ [')']) := by
    simp [render]
  have scanned := reads.settled.bareTokens_group_end
  rw [← written] at scanned
  refine ⟨?_, ?_, ?_, ?_⟩
  · apply settled_of_bareTokens scanned
    simpa [or_imp, forall_and, Settled] using reads.settled
  · rw [scanned]
    exact .single (.negation (.operand reads.derivesGroup))
  · rw [disjuncts_group, atoms, List.flatMap_singleton]
    exact reads.leaves_readBack
  · intro assignment
    rw [disjuncts_group, List.any_cons, List.any_nil, Bool.or_false,
      truth_group]
    exact reads.truth_readBack assignment

/--
Two conditions in parentheses with a connective between them are scanned one after the
other, so that the tokens of both are found inside their parentheses.
-/
private theorem scanned_pair
    {left right : Condition}
    {text : List Char}
    {symbol : Char}
    {connective : Token}
    (leftReads : ReadsAs left)
    (rightReads : ReadsAs right)
    (operator : connective.kind ≠ .literal)
    (joins :
      ∀ rest,
        bareTokens (' ' :: symbol :: symbol :: ' ' :: rest) =
          connective :: bareTokens rest)
    (written :
      text =
        '(' :: (left.render.toList ++
          ')' :: ' ' :: symbol :: symbol :: ' ' :: '(' ::
            (right.render.toList ++ [')']))) :
    Settled text ∧
      bareTokens text =
        (⟨.leftParen, "(", 0⟩ ::
            (bareTokens left.render.toList ++ [⟨.rightParen, ")", 0⟩])) ++
          connective ::
            (⟨.leftParen, "(", 0⟩ ::
              (bareTokens right.render.toList ++ [⟨.rightParen, ")", 0⟩])) := by
  have scanned := leftReads.settled.bareTokens_pair rightReads.settled joins
  rw [← written] at scanned
  refine ⟨settled_of_bareTokens scanned ?_, scanned⟩
  simpa [or_imp, forall_and, Settled, operator] using
    And.intro leftReads.settled rightReads.settled

/-- Both sides of a conjunction stand in parentheses and are read back on their own. -/
private theorem readsAs_and
    {left right : Condition}
    (leftReads : ReadsAs left)
    (rightReads : ReadsAs right) :
    ReadsAs (.and left right) := by
  obtain ⟨settled, scanned⟩ :=
    scanned_pair leftReads rightReads (by decide) Token.bareTokens_spaced_and
      (show (render (.and left right)).toList = _ by simp [render])
  refine ⟨settled, ?_, ?_, ?_⟩
  · rw [scanned]
    exact .single
      (.and (.negation (.operand leftReads.derivesGroup)) rfl
        (.operand rightReads.derivesGroup))
  · rw [disjuncts_and, atoms, List.flatMap_singleton, leaves,
      leftReads.leaves_readBack, rightReads.leaves_readBack, List.map_append]
  · intro assignment
    rw [disjuncts_and, List.any_cons, List.any_nil, Bool.or_false,
      truth_and, truth_and, leftReads.truth_readBack,
      rightReads.truth_readBack]

/-- Both sides of a disjunction stand in parentheses and are read back on their own. -/
private theorem readsAs_or
    {left right : Condition}
    (leftReads : ReadsAs left)
    (rightReads : ReadsAs right) :
    ReadsAs (.or left right) := by
  obtain ⟨settled, scanned⟩ :=
    scanned_pair leftReads rightReads (by decide)
      (Token.bareTokens_spaced_or (by decide))
      (show (render (.or left right)).toList = _ by simp [render])
  refine ⟨settled, ?_, ?_, ?_⟩
  · rw [scanned]
    exact Alternatives.more
      (.single (.negation (.operand leftReads.derivesGroup))) rfl
      (.negation (.operand rightReads.derivesGroup))
  · rw [disjuncts_or, atoms, List.flatMap_cons, List.flatMap_singleton,
      leftReads.leaves_readBack, rightReads.leaves_readBack, List.map_append]
  · intro assignment
    rw [disjuncts_or, List.any_cons, List.any_cons, List.any_nil,
      Bool.or_false, truth_or, leftReads.truth_readBack,
      rightReads.truth_readBack]

/-- A negation puts parentheses around anything but a call. -/
private theorem readsAs_not_group
    {child : Condition}
    (noCall : child.isCall = false)
    (reads : ReadsAs child) :
    ReadsAs (.not child) := by
  have written :
      (render (.not child)).toList =
        '!' :: '(' :: (child.render.toList ++ [')']) := by
    simp [render, noCall]
  have scanned :
      bareTokens (render (.not child)).toList =
        ⟨.not, "!", 0⟩ :: ⟨.leftParen, "(", 0⟩ ::
          (bareTokens child.render.toList ++ [⟨.rightParen, ")", 0⟩]) := by
    rw [written, Token.bareTokens_not (by simp),
      reads.settled.bareTokens_group_end]
  refine ⟨?_, ?_, ?_, ?_⟩
  · apply settled_of_bareTokens scanned
    simpa [or_imp, forall_and, Settled] using reads.settled
  · rw [scanned]
    exact .single (.negation (.not rfl (.operand reads.derivesGroup)))
  · rw [disjuncts_not, atoms, List.flatMap_singleton, leaves]
    exact reads.leaves_readBack
  · intro assignment
    rw [disjuncts_not, List.any_cons, List.any_nil, Bool.or_false,
      truth_not, truth_not, reads.truth_readBack]

/-- A negated call stands without parentheses and is one leaf. -/
private theorem readsAs_not_call
    {function : String}
    {arguments : List Condition}
    (atom : AtomText (render (.call function arguments)))
    (notEqual :
      (render (.call function arguments)).toList.head? ≠ some '=') :
    ReadsAs (.not (.call function arguments)) := by
  have text :
      (render (.not (.call function arguments))).toList =
        '!' :: (render (.call function arguments)).toList := by
    have isCall : isCall (.call function arguments) = true := rfl
    rw [render, if_pos isCall, String.toList_append]
    rfl
  have noEqual :
      ∀ next ∈ (render (.call function arguments)).toList.head?,
        next ≠ '=' := by
    rintro next first rfl
    exact notEqual first
  have scanned :
      bareTokens (render (.not (.call function arguments))).toList =
        [⟨.not, "!", 0⟩,
          ⟨.literal, render (.call function arguments), 0⟩] := by
    rw [text, Token.bareTokens_not noEqual, atom.bareTokens_eq]
  refine ⟨?_, ?_, ?_, ?_⟩
  · apply settled_of_bareTokens scanned
    simpa using atom.closed
  · rw [scanned]
    exact .single (.negation (.not rfl (.operand (.literal rfl))))
  · simp [disjuncts, atoms, leaves, chain, leaf]
  · intro assignment
    simp [disjuncts, Condition.truth, evaluate, chain, leaf, render]

/-! ## Alternatives -/

/-- Without a description no comment line is written. -/
private theorem commentLine_of_undescribed
    {term : Condition}
    (undescribed : term.Undescribed) :
    term.commentLine = "" := by
  cases term with
  | expression text description =>
      rw [undescribed text description rfl]
      rfl
  | _ =>
      rfl

private theorem renderLines_ne_nil
    (term : Condition)
    (others : List Condition) :
    renderLines (term :: others) ≠ [] := by
  cases others <;>
    simp [renderLines]

/-- Without comments, lines are alternatives whose separator breaks the line. -/
private theorem intercalate_renderLines
    {terms : List Condition}
    (undescribed : ∀ term ∈ terms, term.Undescribed) :
    String.intercalate "\n" (renderLines terms) =
      String.intercalate " ||\n" (renderEach terms) := by
  induction terms with
  | nil =>
      rfl
  | cons term others inductionHypothesis =>
      have noComment := commentLine_of_undescribed (undescribed term (by simp))
      cases others with
      | nil =>
          simp [renderLines, renderEach, noComment]
      | cons next later =>
          have restSame :=
            inductionHypothesis
              (fun item member => undescribed item (by simp [member]))
          rw [renderLines,
            String.intercalate_cons_of_ne_nil (renderLines_ne_nil next later),
            restSame]
          simp only [renderEach, String.intercalate_cons_cons, noComment,
            String.empty_append, String.append_assoc]
          rfl

/--
Alternatives joined by disjunction signs are read back as one chain, whatever white
space stands behind the signs.
-/
private theorem alternatives_joined
    {separator : String}
    {c : Char}
    (space : Text.isSpace c = true)
    (shape : separator.toList = [' ', '|', '|', c])
    {terms : List Condition}
    (nonempty : terms ≠ [])
    (reads : ∀ term ∈ terms, ReadsAs term) :
    Settled (separator.intercalate (renderEach terms)).toList ∧
      Alternatives
        (bareTokens (separator.intercalate (renderEach terms)).toList)
        (disjunctsOfEach terms) := by
  induction terms with
  | nil =>
      exact (nonempty rfl).elim
  | cons term others inductionHypothesis =>
      have termReads := reads term (by simp)
      cases others with
      | nil =>
          rw [renderEach, renderEach, String.intercalate_singleton,
            disjunctsOfEach, disjunctsOfEach, List.append_nil]
          exact ⟨termReads.settled, termReads.alternatives⟩
      | cons next later =>
          obtain ⟨restSettled, restAlternatives⟩ :=
            inductionHypothesis (by simp)
              (fun item member => reads item (by simp [member]))
          have text :
              (separator.intercalate
                  (renderEach (term :: next :: later))).toList =
                term.render.toList ++
                  ' ' :: '|' :: '|' :: c ::
                    (separator.intercalate
                      (renderEach (next :: later))).toList := by
            rw [renderEach, renderEach, String.intercalate_cons_cons,
              String.toList_append, String.toList_append, shape]
            simp
          -- The sign ends the last literal of the first term, which is closed.
          have scanned :
              bareTokens
                  (separator.intercalate
                    (renderEach (term :: next :: later))).toList =
                bareTokens term.render.toList ++
                  ⟨.or, "||", 0⟩ ::
                    bareTokens
                      (separator.intercalate
                        (renderEach (next :: later))).toList := by
            rw [text, termReads.settled.bareTokens_append (Token.seam_or _),
              Token.bareTokens_spaced_or space]
          constructor
          · apply settled_of_bareTokens scanned
            simpa [or_imp, forall_and, Settled] using
              And.intro termReads.settled restSettled
          · rw [scanned, disjunctsOfEach]
            exact termReads.alternatives.append rfl restAlternatives

/-- The alternatives that are read back have the atoms of the terms as their leaves. -/
private theorem leaves_disjunctsOfEach
    {terms : List Condition}
    (reads : ∀ term ∈ terms, ReadsAs term) :
    (disjunctsOfEach terms).flatMap leaves =
      (atomsOfEach terms).map fun text => ⟨text, ""⟩ := by
  induction terms with
  | nil =>
      rfl
  | cons term others inductionHypothesis =>
      have termLeaves := (reads term (by simp)).leaves
      have otherLeaves :=
        inductionHypothesis
          (fun item member => reads item (by simp [member]))
      rw [disjunctsOfEach, atomsOfEach, List.flatMap_append, List.map_append,
        termLeaves, otherLeaves]

/-- One of the alternatives that are read back is true when one of the terms is. -/
private theorem truth_disjunctsOfEach
    (assignment : String → Bool)
    {terms : List Condition}
    (reads : ∀ term ∈ terms, ReadsAs term) :
    (disjunctsOfEach terms).any (·.truth assignment) =
      terms.any (·.truth assignment) := by
  induction terms with
  | nil =>
      rfl
  | cons term others inductionHypothesis =>
      have termTruth := (reads term (by simp)).truth assignment
      have otherTruth :=
        inductionHypothesis
          (fun item member => reads item (by simp [member]))
      rw [disjunctsOfEach, List.any_append, List.any_cons, termTruth, otherTruth]

/-- Alternatives are read back as one chain in both layouts. -/
private theorem readsAs_anyOf
    {terms : List Condition}
    {multiline : Bool}
    (nonempty : terms ≠ [])
    (undescribed : multiline = true → ∀ term ∈ terms, term.Undescribed)
    (reads : ∀ term ∈ terms, ReadsAs term) :
    ReadsAs (.anyOf terms multiline) := by
  have scanned :
      Settled (render (.anyOf terms multiline)).toList ∧
        Alternatives
          (bareTokens (render (.anyOf terms multiline)).toList)
          (disjunctsOfEach terms) := by
    match terms, multiline with
    | [], _ =>
        exact (nonempty rfl).elim
    | [term], _ =>
        have termReads := reads term (by simp)
        rw [render, disjunctsOfEach, disjunctsOfEach, List.append_nil]
        exact ⟨termReads.settled, termReads.alternatives⟩
    | first :: second :: others, true =>
        rw [render, if_pos rfl,
          intercalate_renderLines (undescribed rfl)]
        exact alternatives_joined (by decide) rfl nonempty reads
    | first :: second :: others, false =>
        rw [render, if_neg (by decide)]
        exact alternatives_joined (by decide) rfl nonempty reads
  refine ⟨scanned.1, ?_, ?_, ?_⟩
  · rw [disjuncts]
    exact scanned.2
  · rw [disjuncts, atoms]
    exact leaves_disjunctsOfEach reads
  · intro assignment
    rw [disjuncts, truth_anyOf]
    exact truth_disjunctsOfEach assignment reads

/-! ## Whole trees -/

mutual

/-- Every well-built tree is read back as its alternatives say. -/
theorem readsAs_of_wellBuilt :
    ∀ condition : Condition,
      condition.WellBuilt →
      ReadsAs condition
  | .and left right, built => by
      rw [WellBuilt] at built
      exact readsAs_and
        (readsAs_of_wellBuilt left built.1)
        (readsAs_of_wellBuilt right built.2)
  | .or left right, built => by
      rw [WellBuilt] at built
      exact readsAs_or
        (readsAs_of_wellBuilt left built.1)
        (readsAs_of_wellBuilt right built.2)
  | .not child, built => by
      rw [WellBuilt] at built
      have childReads := readsAs_of_wellBuilt child built.1
      cases child with
      | call function arguments =>
          exact readsAs_not_call built.1 (built.2 rfl)
      | _ =>
          exact readsAs_not_group rfl childReads
  | .group child, built => by
      rw [WellBuilt] at built
      exact readsAs_group (readsAs_of_wellBuilt child built)
  | .anyOf terms multiline, built => by
      rw [WellBuilt] at built
      exact readsAs_anyOf built.1 built.2.1
        (readsAs_of_eachWellBuilt terms built.2.2)
  | .expression text description, built =>
      readsAs_atom rfl built
  | .call function arguments, built =>
      readsAs_atom rfl built
  | .property path, built =>
      readsAs_atom rfl built
  | .string value, built =>
      readsAs_atom rfl built
  | .boolean value, built =>
      readsAs_atom rfl built
  | .number text, built =>
      readsAs_atom rfl built
  | .compare comparison left right, built =>
      readsAs_atom rfl built
  | .choose test whenTrue whenFalse, built =>
      readsAs_atom rfl built
  | .contains array value, built =>
      readsAs_atom rfl built

/-- Each of some well-built trees is read back as its alternatives say. -/
theorem readsAs_of_eachWellBuilt :
    ∀ conditions : List Condition,
      EachWellBuilt conditions →
      ∀ condition ∈ conditions, ReadsAs condition
  | [], _ => by
      simp
  | first :: others, built => by
      rw [EachWellBuilt] at built
      intro condition member
      rcases List.mem_cons.mp member with isFirst | inOthers
      · rw [isFirst]
        exact readsAs_of_wellBuilt first built.1
      · exact readsAs_of_eachWellBuilt others built.2 condition inOthers

end

/-- The text of a well-built tree is accepted. -/
theorem parse_render_of_wellBuilt
    {condition : Condition}
    (built : condition.WellBuilt) :
    parse condition.render = .ok condition.readBack := by
  have reads := readsAs_of_wellBuilt condition built
  exact parse_eq_ok_iff_bareTokens.mpr reads.alternatives.derives

/--
Writing a well-built tree keeps its meaning: the text is accepted, the leaves of
the tree that is read are the atoms in their order, and both trees have the same
truth value whatever the atoms are.
-/
theorem parse_render_keeps_meaning
    {condition : Condition}
    (built : condition.WellBuilt) :
    ∃ tree,
      parse condition.render = .ok tree ∧
        tree.leaves = condition.atoms.map (fun text => ⟨text, ""⟩) ∧
        ∀ assignment,
          tree.truth assignment = condition.truth assignment := by
  have reads := readsAs_of_wellBuilt condition built
  exact ⟨condition.readBack, parse_render_of_wellBuilt built,
    reads.leaves_readBack, reads.truth_readBack⟩

/-- A negated call beside alternatives on lines, one of them a disjunction. -/
theorem parse_render_keeps_meaning_of_negated_call :
    ∃ condition : Condition,
      condition.WellBuilt ∧
        condition.render = "(!f('a||b')) && (x != ')' ||\n(y) || (z t))" ∧
        ∃ tree,
          parse condition.render = .ok tree ∧
            tree.leaves =
              [⟨"f('a||b')", ""⟩, ⟨"x != ')'", ""⟩, ⟨"y", ""⟩, ⟨"z t", ""⟩] ∧
            ∀ assignment,
              tree.truth assignment =
                (!assignment "f('a||b')" &&
                  (assignment "x != ')'" ||
                    (assignment "y" || assignment "z t"))) := by
  have call : AtomText (render (.call "f" [.string "a||b"])) :=
    ⟨by decide +kernel, by decide +kernel⟩
  have comparison :
      AtomText (render (.compare .notEqual (.property "x") (.string ")"))) :=
    ⟨by decide +kernel, by decide +kernel⟩
  have first : AtomText (render (.property "y")) :=
    ⟨by decide +kernel, by decide +kernel⟩
  have second : AtomText (render (.expression "z t" "last")) :=
    ⟨by decide +kernel, by decide +kernel⟩
  have built :
      WellBuilt
        (.and
          (.not (.call "f" [.string "a||b"]))
          (.anyOf
            [.compare .notEqual (.property "x") (.string ")"),
              .or (.property "y") (.expression "z t" "last")]
            true)) :=
    ⟨⟨call, fun _ => by decide +kernel⟩, by simp, by simp [Undescribed],
      comparison, ⟨first, second⟩, trivial⟩
  obtain ⟨tree, accepted, leaves, truth⟩ := parse_render_keeps_meaning built
  refine ⟨_, built, by decide +kernel, tree, accepted, ?_, ?_⟩
  · rw [leaves]
    decide +kernel
  · intro assignment
    rw [truth assignment]
    have callText :
        render (.call "f" [.string "a||b"]) = "f('a||b')" := by
      decide +kernel
    have comparisonText :
        render (.compare .notEqual (.property "x") (.string ")")) =
          "x != ')'" := by
      decide +kernel
    simp only [Condition.truth, evaluate, evaluateAny, callText, comparisonText,
      Bool.or_false]
    rfl

end WorkflowConditions.Condition
