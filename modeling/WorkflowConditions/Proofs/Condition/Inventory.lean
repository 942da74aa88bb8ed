import WorkflowConditions.Proofs.Condition.Recognition
import WorkflowConditions.Proofs.Condition.Visit

namespace WorkflowConditions

/-!
# What a tree has of its tokens

Reading neither loses nor invents anything.  The leaves of a tree are the literals
of the text it was read from, in their order, and it has one node for every
connective and every negation of that text.  Only parentheses leave no trace.
-/

namespace Condition

mutual

/-- All nodes of a condition, the condition itself first. -/
def nodes : Condition → List Condition
  | .and left right => .and left right :: (left.nodes ++ right.nodes)
  | .or left right => .or left right :: (left.nodes ++ right.nodes)
  | .not child => .not child :: child.nodes
  | .group child => .group child :: child.nodes
  | .anyOf terms multiline => .anyOf terms multiline :: nodesOfEach terms
  | .call function arguments => .call function arguments :: nodesOfEach arguments
  | .compare comparison left right =>
      .compare comparison left right :: (left.nodes ++ right.nodes)
  | .choose test whenTrue whenFalse =>
      .choose test whenTrue whenFalse ::
        (test.nodes ++ (whenTrue.nodes ++ whenFalse.nodes))
  | .contains array value => .contains array value :: (array.nodes ++ value.nodes)
  | single => [single]

/-- All nodes of several conditions. -/
def nodesOfEach : List Condition → List Condition
  | [] => []
  | condition :: others => condition.nodes ++ nodesOfEach others

end

/-- The kind of token from which a conjunction, a disjunction or a negation is read. -/
def operator? : Condition → Option Token.Kind
  | .and _ _ => some .and
  | .or _ _ => some .or
  | .not _ => some .not
  | _ => none

/-- How many nodes of a condition are read from tokens of a kind. -/
def countOperators
    (kind : Token.Kind)
    (condition : Condition) :
    Nat :=
  condition.nodes.countP (·.operator? = some kind)

section

variable (kind : Token.Kind)

/-- A leaf has no operator. -/
theorem countOperators_leaf (text : String) :
    (leaf text).countOperators kind = 0 := by
  simp [countOperators, leaf, nodes, operator?]

theorem countOperators_and (left right : Condition) :
    (Condition.and left right).countOperators kind =
      left.countOperators kind + right.countOperators kind +
        if Token.Kind.and = kind then 1 else 0 := by
  rw [countOperators, nodes, List.countP_cons, List.countP_append]
  simp [operator?, countOperators]

theorem countOperators_or (left right : Condition) :
    (Condition.or left right).countOperators kind =
      left.countOperators kind + right.countOperators kind +
        if Token.Kind.or = kind then 1 else 0 := by
  rw [countOperators, nodes, List.countP_cons, List.countP_append]
  simp [operator?, countOperators]

theorem countOperators_not (child : Condition) :
    (Condition.not child).countOperators kind =
      child.countOperators kind + if Token.Kind.not = kind then 1 else 0 := by
  rw [countOperators, nodes, List.countP_cons]
  simp [operator?, countOperators]

end

end Condition

namespace Token

/-- How many of some tokens are of a kind. -/
def countKind
    (kind : Kind)
    (tokens : List Token) :
    Nat :=
  tokens.countP (·.kind = kind)

/-- A token counts if it is of the kind. -/
theorem countKind_cons
    (kind : Kind)
    (token : Token)
    (rest : List Token) :
    countKind kind (token :: rest) =
      countKind kind rest + if token.kind = kind then 1 else 0 := by
  simp [countKind, List.countP_cons]

theorem countKind_append
    (kind : Kind)
    (first second : List Token) :
    countKind kind (first ++ second) = countKind kind first + countKind kind second :=
  List.countP_append

end Token

namespace Grammar

/-- A derived tree has a node for every operator among its tokens. -/
theorem Derives.countOperators_eq
    {phrase : Phrase}
    {tokens : List Token}
    {tree : Condition}
    {kind : Token.Kind}
    (derived : Derives phrase tokens tree)
    (operator : kind ∈ [Token.Kind.and, .or, .not]) :
    tree.countOperators kind = Token.countKind kind tokens := by
  have notLiteral : Token.Kind.literal ≠ kind := by
    rintro rfl
    simp at operator
  have notOpening : Token.Kind.leftParen ≠ kind := by
    rintro rfl
    simp at operator
  have notClosing : Token.Kind.rightParen ≠ kind := by
    rintro rfl
    simp at operator
  have nothing : Token.countKind kind [] = 0 := rfl
  induction derived with
  | literal isLiteral =>
      rw [Condition.countOperators_leaf, Token.countKind_cons, isLiteral,
        if_neg notLiteral, nothing]
  | group opens _ closes inductionHypothesis =>
      rw [List.cons_append, Token.countKind_cons, Token.countKind_append,
        Token.countKind_cons, opens, closes, if_neg notOpening, if_neg notClosing,
        nothing, inductionHypothesis]
      rfl
  | operand _ inductionHypothesis
  | negation _ inductionHypothesis
  | conjunction _ inductionHypothesis =>
      exact inductionHypothesis
  | not negates _ inductionHypothesis =>
      rw [Condition.countOperators_not, Token.countKind_cons, negates,
        inductionHypothesis]
  | and _ joins _ leftCount rightCount =>
      rw [Condition.countOperators_and, Token.countKind_append, Token.countKind_cons,
        joins, leftCount, rightCount, Nat.add_assoc]
  | or _ joins _ leftCount rightCount =>
      rw [Condition.countOperators_or, Token.countKind_append, Token.countKind_cons,
        joins, leftCount, rightCount, Nat.add_assoc]

end Grammar

namespace Condition

/-- The leaf of every literal among some tokens. -/
theorem filterMap_literalLeaf?
    (tokens : List Token) :
    tokens.filterMap Grammar.literalLeaf? =
      (tokens.filter (·.kind = .literal)).map fun token => ⟨token.text, ""⟩ := by
  induction tokens with
  | nil =>
      rfl
  | cons token rest inductionHypothesis =>
      by_cases isLiteral : token.kind = .literal
      · simp [Grammar.literalLeaf?, isLiteral, inductionHypothesis]
      · simp [Grammar.literalLeaf?, isLiteral, inductionHypothesis]

/--
A visit to a tree that was read sees the literals of the text, in their order and
without comments, and the tree has as many conjunctions, disjunctions and negations
as the text has tokens of these kinds.
-/
theorem parse_keeps_tokens
    {source : String}
    {tree : Condition}
    (accepted : parse source = .ok tree) :
    tree.tour none =
        ⟨((Token.scan source).filter (·.kind = .literal)).map
            fun token => ⟨token.text, ""⟩, none⟩ ∧
      ∀ kind ∈ [Token.Kind.and, .or, .not],
        tree.countOperators kind = Token.countKind kind (Token.scan source) := by
  have derived := parse_eq_ok_iff.mp accepted
  constructor
  · rw [tour_none, derived.leaves_eq, filterMap_literalLeaf?, Token.scan_eq,
      List.filter_append]
    simp [Token.atEnd]
  · intro kind operator
    have notEnd : Token.Kind.eof ≠ kind := by
      rintro rfl
      simp at operator
    rw [derived.countOperators_eq operator, Token.scan_eq, Token.countKind_append,
      Token.countKind_cons, Token.atEnd, if_neg notEnd]
    rfl

/-- Parentheses leave no node; the literals and operators around them all do. -/
theorem parse_keeps_tokens_of_negated_group :
    parse "!(a || b) && a" =
        .ok (.and (.not (.or (.leaf "a") (.leaf "b"))) (.leaf "a")) ∧
      tour none (.and (.not (.or (.leaf "a") (.leaf "b"))) (.leaf "a")) =
          ⟨[⟨"a", ""⟩, ⟨"b", ""⟩, ⟨"a", ""⟩], none⟩ ∧
      countOperators .or (.and (.not (.or (.leaf "a") (.leaf "b"))) (.leaf "a")) = 1 := by
  have scanned :
      Token.body "!(a || b) && a" =
        [⟨.not, "!", 0⟩, ⟨.leftParen, "(", 1⟩, ⟨.literal, "a", 2⟩, ⟨.or, "||", 4⟩,
          ⟨.literal, "b", 7⟩, ⟨.rightParen, ")", 8⟩, ⟨.and, "&&", 10⟩,
          ⟨.literal, "a", 13⟩] := by
    decide +kernel
  have accepted :
      parse "!(a || b) && a" =
        .ok (.and (.not (.or (.leaf "a") (.leaf "b"))) (.leaf "a")) :=
    parse_eq_ok_of_run scanned rfl
  obtain ⟨visited, counted⟩ := parse_keeps_tokens accepted
  rw [Token.scan_eq, scanned] at visited
  refine ⟨accepted, visited, ?_⟩
  rw [counted .or (by decide), Token.scan_eq, scanned]
  rfl

end Condition

end WorkflowConditions
