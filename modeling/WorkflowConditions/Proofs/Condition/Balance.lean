import WorkflowConditions.Proofs.Condition.Tree
import WorkflowConditions.Proofs.Text.Balance

namespace WorkflowConditions.Condition

open Text (Balanced IsQuotation)

/-!
# Rendering keeps parentheses balanced

A renderer that puts parentheses around a text relies on its reader being outside
every quotation there, or the parentheses would be taken for quoted ones.  A balanced
text leaves the reader outside, so each kind of node renders to a balanced text when
its own texts are balanced and its subtrees render to balanced texts.
-/

/-- The comment of a term, if it has one, is balanced. -/
def DescriptionBalanced (term : Condition) : Prop :=
  ∀ text description,
    term = .expression text description →
    Balanced description

/--
The texts that a node itself adds are balanced: opaque texts, names, and the comments
of alternatives that are written on a line each.  A string makes one quotation when it
stands between apostrophes.
-/
def PartsBalanced : Condition → Prop
  | .expression text _ => Balanced text
  | .property path => Balanced path
  | .number text => Balanced text
  | .call function _ => Balanced function
  | .string value => IsQuotation ("'" ++ value ++ "'")
  | .anyOf terms multiline =>
      multiline = true → ∀ term ∈ terms, term.DescriptionBalanced
  | _ => True

/-! ## One node -/

private theorem balanced_separated
    (separator : String)
    (isBalanced : Balanced separator)
    {left right : String}
    (leftBalanced : Balanced left)
    (rightBalanced : Balanced right) :
    Balanced (left ++ separator ++ right) :=
  (leftBalanced.append isBalanced).append rightBalanced

/-- What stands between the operands of a connective closes one group and opens the next. -/
private theorem balanced_connected
    (connective : String)
    (isBalanced : Balanced connective)
    {between : String}
    (shape : between = ")" ++ connective ++ "(")
    {left right : String}
    (leftBalanced : Balanced left)
    (rightBalanced : Balanced right) :
    Balanced ("(" ++ left ++ between ++ right ++ ")") := by
  have regrouped :
      "(" ++ left ++ between ++ right ++ ")" =
        ("(" ++ left ++ ")") ++ connective ++ ("(" ++ right ++ ")") := by
    simp only [shape, String.append_assoc]
  rw [regrouped]
  exact balanced_separated connective isBalanced leftBalanced.parenthesised
    rightBalanced.parenthesised

/-- The symbol of a comparison has no parentheses and no quotation marks. -/
theorem balanced_symbol (comparison : Comparison) :
    Balanced (" " ++ comparison.symbol ++ " ") := by
  cases comparison <;>
    decide

/-- A comment line adds nothing but its description to count. -/
theorem balanced_commentLine
    {term : Condition}
    (balanced : term.DescriptionBalanced) :
    Balanced term.commentLine := by
  cases term with
  | expression text description =>
      rw [commentLine]
      split
      · decide
      · exact balanced_separated description (balanced text description rfl) (by decide)
          (by decide)
  | _ =>
      exact (by decide : Balanced "")

/-- Alternatives on a line each are balanced with their comments. -/
theorem balanced_renderMultiline
    {terms : List Condition}
    (described : ∀ term ∈ terms, term.DescriptionBalanced)
    (balanced : ∀ term ∈ terms, Balanced term.render) :
    Balanced (renderMultiline terms) := by
  have lines : Balanced (String.intercalate "\n" (renderLines terms)) := by
    refine Balanced.intercalate (by decide) ?_
    intro line member
    obtain ⟨term, isTerm, shape⟩ := exists_term_of_mem_renderLines member
    have bare : Balanced (term.commentLine ++ term.render) :=
      (balanced_commentLine (described term isTerm)).append (balanced term isTerm)
    rcases shape with rfl | rfl
    · exact bare
    · exact bare.append (by decide)
  match terms with
  | [] =>
      exact (by decide : Balanced "")
  | [term] =>
      exact balanced term (by simp)
  | _ :: _ :: _ =>
      exact lines

/-- Balanced texts stay balanced when a balanced separator joins them. -/
theorem balanced_renderEach
    {terms : List Condition}
    (balanced : ∀ term ∈ terms, Balanced term.render)
    (separator : String)
    (isBalanced : Balanced separator) :
    Balanced (separator.intercalate (renderEach terms)) := by
  refine isBalanced.intercalate ?_
  intro text member
  rw [renderEach_eq_map] at member
  obtain ⟨term, isTerm, rfl⟩ := List.mem_map.mp member
  exact balanced term isTerm

/-- Alternatives are balanced in both layouts; only the one on lines writes their comments. -/
theorem balanced_render_anyOf
    {terms : List Condition}
    {multiline : Bool}
    (described : multiline = true → ∀ term ∈ terms, term.DescriptionBalanced)
    (balanced : ∀ term ∈ terms, Balanced term.render) :
    Balanced (render (.anyOf terms multiline)) := by
  cases multiline with
  | true =>
      exact balanced_renderMultiline (described rfl) balanced
  | false =>
      match terms with
      | [] =>
          exact (by decide : Balanced "")
      | [term] =>
          exact balanced term (by simp)
      | _ :: _ :: _ =>
          exact balanced_renderEach balanced " || " (by decide)

/-- A node renders to a balanced text when its subtrees do. -/
theorem PartsBalanced.balanced
    {tree : Condition}
    (parts : tree.PartsBalanced)
    (subtrees : ∀ child ∈ tree.children, Balanced child.render) :
    Balanced tree.render := by
  cases tree with
  | expression text description =>
      exact parts
  | property path =>
      exact parts
  | number text =>
      exact parts
  | string value =>
      exact IsQuotation.balanced parts
  | boolean value =>
      cases value with
      | true =>
          exact (by decide : Balanced "true")
      | false =>
          exact (by decide : Balanced "false")
  | and left right =>
      exact balanced_connected " && " (by decide) rfl
        (subtrees left (by simp [children])) (subtrees right (by simp [children]))
  | or left right =>
      exact balanced_connected " || " (by decide) rfl
        (subtrees left (by simp [children])) (subtrees right (by simp [children]))
  | not child =>
      have inner := subtrees child (by simp [children])
      have mark : Balanced "!" := by
        decide
      rw [render]
      split
      · exact mark.append inner
      · have shape :
            "!(" ++ child.render ++ ")" = "!" ++ ("(" ++ child.render ++ ")") :=
          String.toList_inj.mp (by simp)
        rw [shape]
        exact mark.append inner.parenthesised
  | group child =>
      exact (subtrees child (by simp [children])).parenthesised
  | anyOf terms multiline =>
      exact balanced_render_anyOf parts subtrees
  | call function arguments =>
      have name : Balanced function := parts
      have inner := balanced_renderEach subtrees ", " (by decide)
      have shape :
          render (.call function arguments) =
            function ++
              ("(" ++ String.intercalate ", " (renderEach arguments) ++ ")") := by
        simp only [render, String.append_assoc]
      rw [shape]
      exact name.append inner.parenthesised
  | compare comparison left right =>
      have shape :
          render (.compare comparison left right) =
            left.render ++ (" " ++ comparison.symbol ++ " ") ++ right.render := by
        simp only [render, String.append_assoc]
      rw [shape]
      exact balanced_separated _ (balanced_symbol comparison)
        (subtrees left (by simp [children])) (subtrees right (by simp [children]))
  | choose test whenTrue whenFalse =>
      have chosen :=
        balanced_separated " ? " (by decide) (subtrees test (by simp [children]))
          (subtrees whenTrue (by simp [children]))
      exact balanced_separated " : " (by decide) chosen
        (subtrees whenFalse (by simp [children]))
  | contains array value =>
      have operands :=
        balanced_separated ", " (by decide) (subtrees array (by simp [children]))
          (subtrees value (by simp [children]))
      have name : Balanced "contains" := by
        decide
      have shape :
          render (.contains array value) =
            "contains" ++ ("(" ++ (array.render ++ ", " ++ value.render) ++ ")") := by
        rw [render]
        exact String.toList_inj.mp (by simp)
      rw [shape]
      exact name.append operands.parenthesised

/-! ## Whole trees -/

/-- The step from the subtrees to the tree, taken at every node. -/
theorem balanced_render
    {tree : Condition}
    (parts : Everywhere PartsBalanced tree) :
    Balanced tree.render := by
  induction parts with
  | intro here _ inductionHypothesis =>
      exact here.balanced inductionHypothesis

/--
Alternatives are balanced on a line each when the comments that this layout writes are,
also where the node itself puts them on one line.
-/
def MultilineBalanced (node : Condition) : Prop :=
  ∀ terms multiline,
    node = .anyOf terms multiline →
    (multiline = true ∨ ∀ term ∈ terms, term.DescriptionBalanced) →
    Balanced (renderMultiline terms)

/-- At any node of such a tree the layout on lines is balanced too. -/
theorem multilineBalanced
    {node : Condition}
    (parts : Everywhere PartsBalanced node) :
    node.MultilineBalanced := by
  rintro terms multiline rfl described
  have comments : ∀ term ∈ terms, term.DescriptionBalanced :=
    described.elim parts.here id
  exact balanced_renderMultiline comments
    (fun term member => balanced_render (parts.inside term member))

/--
A tree whose texts are balanced and whose strings are quotations renders to a balanced
text, and so do all alternatives in it when they are written on a line each with
balanced comments.
-/
theorem render_never_unbalances
    (tree : Condition)
    (parts : Everywhere PartsBalanced tree) :
    Balanced tree.render ∧ Everywhere MultilineBalanced tree :=
  ⟨balanced_render parts, parts.deepen fun _ => multilineBalanced⟩

/--
An apostrophe behind a backslash and lone parentheses inside a string, under a comment
with parentheses of its own.
-/
theorem render_never_unbalances_of_quoted_parentheses :
    let tree : Condition :=
      .anyOf
        [.expression "always()" "as (always)",
          .not (.contains (.property "github.ref") (.string ")\\\x27("))]
        true
    Everywhere PartsBalanced tree ∧
      tree.render =
        "# as (always)\nalways() ||\n!(contains(github.ref, ')\\\x27('))" ∧
      Balanced tree.render ∧
      Everywhere MultilineBalanced tree := by
  intro tree
  have path : Everywhere PartsBalanced (.property "github.ref") :=
    .of_no_children rfl (by decide : Balanced "github.ref")
  have value : Everywhere PartsBalanced (.string ")\\\x27(") :=
    .of_no_children rfl (by decide : IsQuotation "')\\\x27('")
  have membership :
      Everywhere PartsBalanced
        (.contains (.property "github.ref") (.string ")\\\x27(")) :=
    .intro trivial (by simp [children, path, value])
  have negation :
      Everywhere PartsBalanced
        (.not (.contains (.property "github.ref") (.string ")\\\x27("))) :=
    .intro trivial (by simp [children, membership])
  have first : Everywhere PartsBalanced (.expression "always()" "as (always)") :=
    .of_no_children rfl (by decide : Balanced "always()")
  have comments : tree.PartsBalanced := by
    intro _ term member text description shape
    rcases List.mem_cons.mp member with rfl | inRest
    · cases shape
      decide
    · cases (List.mem_singleton.mp inRest).symm.trans shape
  have parts : Everywhere PartsBalanced tree :=
    .intro comments (by simp [tree, children, first, negation])
  exact ⟨parts, rfl, render_never_unbalances tree parts⟩

/--
On one line alternatives do not show their comments, so these need not be balanced; a
line each shows them, and then the text is unbalanced.
-/
theorem renderMultiline_unbalances_of_hidden_comment :
    let terms : List Condition := [.expression "a" ")", .expression "b" ""]
    Everywhere PartsBalanced (.anyOf terms false) ∧
      renderMultiline terms = "# )\na ||\nb" ∧
      ¬ Balanced (renderMultiline terms) := by
  intro terms
  have first : Everywhere PartsBalanced (.expression "a" ")") :=
    .of_no_children rfl (by decide : Balanced "a")
  have second : Everywhere PartsBalanced (.expression "b" "") :=
    .of_no_children rfl (by decide : Balanced "b")
  have shown : renderMultiline terms = "# )\na ||\nb" := rfl
  refine ⟨.intro (by simp [PartsBalanced]) (by simp [terms, children, first, second]), shown, ?_⟩
  rw [shown]
  decide

end WorkflowConditions.Condition
