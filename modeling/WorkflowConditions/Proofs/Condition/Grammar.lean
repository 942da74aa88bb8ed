import WorkflowConditions.Condition.Basic
import WorkflowConditions.Condition.Leaves
import WorkflowConditions.Token.Basic

namespace WorkflowConditions.Grammar

/-!
# The grammar of conditions

```text
disjunction := conjunction ('||' conjunction)*
conjunction := negation ('&&' negation)*
negation    := '!' negation | operand
operand     := '(' disjunction ')' | literal
```

The grammar is a relation between token sequences and condition trees.  It says
nothing about how a sequence is read: reading is compared with it in
`WorkflowConditions.Proofs.Condition.Recognition`.
-/

/-- The phrases of the grammar, from the loosest to the tightest. -/
inductive Phrase where
  | disjunction
  | conjunction
  | negation
  | operand
  deriving Repr, DecidableEq

/--
A token sequence derives a tree as a phrase.

A chain of connectives grows at its right end, so its tree nests to the left.
Parentheses leave no node of their own.
-/
inductive Derives : Phrase → List Token → Condition → Prop where
  | literal
      {token : Token}
      (isLiteral : token.kind = .literal) :
      Derives .operand [token] (.leaf token.text)
  | group
      {opening closing : Token}
      {tokens : List Token}
      {tree : Condition}
      (opens : opening.kind = .leftParen)
      (inner : Derives .disjunction tokens tree)
      (closes : closing.kind = .rightParen) :
      Derives .operand (opening :: tokens ++ [closing]) tree
  | operand
      {tokens : List Token}
      {tree : Condition} :
      Derives .operand tokens tree →
      Derives .negation tokens tree
  | not
      {negator : Token}
      {tokens : List Token}
      {tree : Condition}
      (negates : negator.kind = .not)
      (inner : Derives .negation tokens tree) :
      Derives .negation (negator :: tokens) (.not tree)
  | negation
      {tokens : List Token}
      {tree : Condition} :
      Derives .negation tokens tree →
      Derives .conjunction tokens tree
  | and
      {connective : Token}
      {leftTokens rightTokens : List Token}
      {left right : Condition}
      (first : Derives .conjunction leftTokens left)
      (joins : connective.kind = .and)
      (last : Derives .negation rightTokens right) :
      Derives .conjunction
        (leftTokens ++ connective :: rightTokens) (.and left right)
  | conjunction
      {tokens : List Token}
      {tree : Condition} :
      Derives .conjunction tokens tree →
      Derives .disjunction tokens tree
  | or
      {connective : Token}
      {leftTokens rightTokens : List Token}
      {left right : Condition}
      (first : Derives .disjunction leftTokens left)
      (joins : connective.kind = .or)
      (last : Derives .conjunction rightTokens right) :
      Derives .disjunction
        (leftTokens ++ connective :: rightTokens) (.or left right)

/-- A token sequence is a sentence of the grammar and `tree` is its tree. -/
abbrev Sentence (tokens : List Token) (tree : Condition) : Prop :=
  Derives .disjunction tokens tree

/-- A token sequence can be continued to a sentence. -/
def Viable (tokens : List Token) : Prop :=
  ∃ rest tree, Sentence (tokens ++ rest) tree

namespace Derives

/-- An operand is a disjunction with one disjunct, and that with one conjunct. -/
theorem toDisjunction
    {tokens : List Token}
    {tree : Condition}
    (derived : Derives .operand tokens tree) :
    Derives .disjunction tokens tree :=
  .conjunction (.negation (.operand derived))

/-- A sentence in parentheses is an operand. -/
theorem parenthesised
    {tokens : List Token}
    {tree : Condition}
    (derived : Derives .disjunction tokens tree) :
    Derives .operand
      (⟨.leftParen, "(", 0⟩ :: (tokens ++ [⟨.rightParen, ")", 0⟩])) tree :=
  .group rfl derived rfl

/-- No phrase is derived from nothing. -/
theorem ne_nil
    {phrase : Phrase}
    {tokens : List Token}
    {tree : Condition}
    (derived : Derives phrase tokens tree) :
    tokens ≠ [] := by
  induction derived with
  | literal | group | not | and | or =>
      simp
  | operand _ inductionHypothesis
  | negation _ inductionHypothesis
  | conjunction _ inductionHypothesis =>
      exact inductionHypothesis

end Derives

/-- The leaf that a literal token stands for. -/
def literalLeaf? (token : Token) : Option Leaf :=
  if token.kind = .literal then some ⟨token.text, ""⟩ else none

/-- The leaves of a derived tree are its literal tokens, in order. -/
theorem Derives.leaves_eq
    {phrase : Phrase}
    {tokens : List Token}
    {tree : Condition}
    (derived : Derives phrase tokens tree) :
    tree.leaves = tokens.filterMap literalLeaf? := by
  induction derived with
  | literal isLiteral =>
      simp [Condition.leaf, Condition.leaves, literalLeaf?, isLiteral]
  | group opens _ closes inductionHypothesis =>
      simp [literalLeaf?, opens, closes, inductionHypothesis]
  | operand _ inductionHypothesis
  | negation _ inductionHypothesis
  | conjunction _ inductionHypothesis =>
      exact inductionHypothesis
  | not negates _ inductionHypothesis =>
      simp [Condition.leaves, literalLeaf?, negates, inductionHypothesis]
  | and _ joins _ leftLeaves rightLeaves
  | or _ joins _ leftLeaves rightLeaves =>
      simp [Condition.leaves, literalLeaf?, joins, leftLeaves, rightLeaves]

/-! ## Disjunctions as chains -/

/-- Alternatives nested to the left. -/
def chain : List Condition → Condition
  | [] => .anyOf [] false
  | first :: others => others.foldl .or first

/-- A chain nests to the left, so its last member is the right side of its top. -/
theorem chain_concat
    {trees : List Condition}
    (nonempty : trees ≠ [])
    (last : Condition) :
    chain (trees ++ [last]) = .or (chain trees) last := by
  cases trees with
  | nil =>
      exact (nonempty rfl).elim
  | cons first others =>
      simp [chain]

/-- Conjunctions with a disjunction sign between each two of them. -/
inductive Alternatives : List Token → List Condition → Prop where
  | single
      {tokens : List Token}
      {tree : Condition}
      (derived : Derives .conjunction tokens tree) :
      Alternatives tokens [tree]
  | more
      {connective : Token}
      {tokens lastTokens : List Token}
      {trees : List Condition}
      {last : Condition}
      (earlier : Alternatives tokens trees)
      (joins : connective.kind = .or)
      (derived : Derives .conjunction lastTokens last) :
      Alternatives (tokens ++ connective :: lastTokens) (trees ++ [last])

namespace Alternatives

/-- There is always at least one alternative. -/
theorem ne_nil
    {tokens : List Token}
    {trees : List Condition}
    (alternatives : Alternatives tokens trees) :
    trees ≠ [] := by
  cases alternatives with
  | single =>
      simp
  | more =>
      simp

/-- Alternatives are a disjunction, whose tree is their chain. -/
theorem derives
    {tokens : List Token}
    {trees : List Condition}
    (alternatives : Alternatives tokens trees) :
    Derives .disjunction tokens (chain trees) := by
  induction alternatives with
  | single derived =>
      exact .conjunction derived
  | more earlier joins derived inductionHypothesis =>
      rw [chain_concat earlier.ne_nil]
      exact .or inductionHypothesis joins derived

/-- A disjunction sign between alternatives makes one list of them. -/
theorem append
    {connective : Token}
    {firstTokens secondTokens : List Token}
    {firstTrees secondTrees : List Condition}
    (first : Alternatives firstTokens firstTrees)
    (joins : connective.kind = .or)
    (second : Alternatives secondTokens secondTrees) :
    Alternatives
      (firstTokens ++ connective :: secondTokens)
      (firstTrees ++ secondTrees) := by
  induction second with
  | single derived =>
      exact .more first joins derived
  | more _ joinsLast derived inductionHypothesis =>
      have whole := Alternatives.more inductionHypothesis joinsLast derived
      simpa using whole

end Alternatives

end WorkflowConditions.Grammar
