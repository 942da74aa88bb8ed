import WorkflowConditions.Proofs.Condition.Tree
import WorkflowConditions.Proofs.Condition.Visit

namespace WorkflowConditions.Condition

/-!
# What a visitor is called on

A visit goes into conjunctions, disjunctions, negations and alternatives only.  The
leaves it can come to have addresses, which say for each node on the way down which
subtree was taken; reading from left to right, depth first, is the lexicographic order
of addresses.  A visitor is called on the leaves in this order and on each of them once,
up to and including the first on which it stops with an error, and that error is what
the visit ends with.
-/

/-! ## Addresses of leaves -/

/-- Whether a visit goes into the subtrees of a node. -/
def isEntered : Condition → Bool
  | .and _ _ | .or _ _ | .not _ | .anyOf _ _ => true
  | _ => false

/-- The leaf that a visit comes to by taking the subtrees with these indices. -/
inductive LeafAt : Condition → List Nat → Leaf → Prop where
  | here
      (text description : String) :
      LeafAt (.expression text description) [] ⟨text, description⟩
  | inside
      {tree child : Condition}
      {index : Nat}
      {address : List Nat}
      {leaf : Leaf}
      (entered : tree.isEntered = true)
      (isChild : tree.children[index]? = some child)
      (found : LeafAt child address leaf) :
      LeafAt tree (index :: address) leaf

/-- All leaves that a visit can come to, by address and each address once. -/
structure LeavesInOrder
    (tree : Condition)
    (occurrences : List (List Nat × Leaf)) :
    Prop where
  ordered : occurrences.Pairwise fun earlier later => List.Lex (· < ·) earlier.1 later.1
  reached : ∀ address leaf, (address, leaf) ∈ occurrences ↔ LeafAt tree address leaf

/-! ## The leaves of a tree are in order -/

/-- The leaves of several trees, the first of which is the subtree with index `offset`. -/
structure LeavesFrom
    (offset : Nat)
    (trees : List Condition)
    (occurrences : List (List Nat × Leaf)) :
    Prop where
  ordered : occurrences.Pairwise fun earlier later => List.Lex (· < ·) earlier.1 later.1
  reached :
    ∀ address leaf,
      (address, leaf) ∈ occurrences ↔
        ∃ index child rest,
          address = (offset + index) :: rest ∧
            trees[index]? = some child ∧
            LeafAt child rest leaf

theorem leavesFrom_nil (offset : Nat) : LeavesFrom offset [] [] where
  ordered := .nil
  reached := by
    simp

/-- A leaf of a subtree, by its address in the whole tree. -/
def under
    (index : Nat)
    (occurrence : List Nat × Leaf) :
    List Nat × Leaf :=
  (index :: occurrence.1, occurrence.2)

/-- The leaves of the first subtree come before those of the others. -/
theorem LeavesFrom.cons
    {offset : Nat}
    {tree : Condition}
    {others : List Condition}
    {first later : List (List Nat × Leaf)}
    (inFirst : LeavesInOrder tree first)
    (inOthers : LeavesFrom (offset + 1) others later) :
    LeavesFrom offset (tree :: others) (first.map (under offset) ++ later) where
  ordered := by
    rw [List.pairwise_append, List.pairwise_map]
    refine ⟨inFirst.ordered.imp fun earlier => .cons earlier, inOthers.ordered, ?_⟩
    rintro _ member ⟨address, leaf⟩ laterMember
    obtain ⟨occurrence, _, rfl⟩ := List.mem_map.mp member
    obtain ⟨index, child, rest, rfl, _⟩ := (inOthers.reached address leaf).mp laterMember
    exact .rel (by omega)
  reached := by
    intro address leaf
    rw [List.mem_append, inOthers.reached]
    constructor
    · rintro (member | ⟨index, child, rest, rfl, isChild, found⟩)
      · obtain ⟨⟨rest, found⟩, listed, same⟩ := List.mem_map.mp member
        obtain ⟨rfl, rfl⟩ := Prod.mk.inj same
        exact ⟨0, tree, rest, rfl, rfl, (inFirst.reached rest found).mp listed⟩
      · exact ⟨index + 1, child, rest, by rw [Nat.add_assoc, Nat.add_comm 1], isChild, found⟩
    · rintro ⟨index, child, rest, rfl, isChild, found⟩
      cases index with
      | zero =>
          obtain rfl := Option.some.inj isChild
          exact .inl (List.mem_map.mpr ⟨(rest, leaf), (inFirst.reached rest leaf).mpr found, rfl⟩)
      | succ index =>
          exact .inr ⟨index, child, rest, by rw [Nat.add_assoc, Nat.add_comm 1], isChild, found⟩

/-- If each subtree lists its leaves in order, all of them together do. -/
theorem exists_leavesFrom
    (offset : Nat)
    {trees : List Condition}
    (each :
      ∀ tree ∈ trees,
        ∃ occurrences,
          LeavesInOrder tree occurrences ∧ occurrences.map Prod.snd = tree.leaves) :
    ∃ occurrences,
      LeavesFrom offset trees occurrences ∧
        occurrences.map Prod.snd = leavesOfEach trees := by
  induction trees generalizing offset with
  | nil =>
      exact ⟨[], leavesFrom_nil offset, rfl⟩
  | cons tree others inductionHypothesis =>
      obtain ⟨first, inFirst, firstLeaves⟩ := each tree (by simp)
      obtain ⟨later, inOthers, laterLeaves⟩ :=
        inductionHypothesis (offset + 1) fun other member => each other (by simp [member])
      refine ⟨_, LeavesFrom.cons inFirst inOthers, ?_⟩
      rw [List.map_append, List.map_map, leavesOfEach, laterLeaves, ← firstLeaves]
      rfl

/-- A node that is entered has the leaves of its subtrees. -/
theorem leaves_of_isEntered
    {tree : Condition}
    (entered : tree.isEntered = true) :
    tree.leaves = leavesOfEach tree.children := by
  cases tree with
  | and | or | not =>
      simp [leaves, leavesOfEach, children]
  | anyOf =>
      rw [leaves, children]
  | _ =>
      cases entered

/-- A leaf is its own and only leaf. -/
theorem leavesInOrder_expression
    (text description : String) :
    LeavesInOrder (.expression text description) [([], ⟨text, description⟩)] where
  ordered := List.pairwise_singleton _ _
  reached := by
    intro address leaf
    constructor
    · intro listed
      obtain ⟨rfl, rfl⟩ := Prod.mk.inj (List.mem_singleton.mp listed)
      exact .here text description
    · intro found
      cases found with
      | here =>
          exact List.mem_singleton.mpr rfl
      | inside entered =>
          cases entered

/-- A visit comes to no leaf of a node that is neither an expression nor entered. -/
theorem leavesInOrder_nil
    {tree : Condition}
    (opaqueNode : tree.isEntered = false)
    (noExpression : ∀ text description, tree ≠ .expression text description) :
    LeavesInOrder tree [] where
  ordered := .nil
  reached := by
    intro address leaf
    constructor
    · intro listed
      cases listed
    · intro found
      cases found with
      | here text description =>
          exact (noExpression text description rfl).elim
      | inside entered =>
          rw [opaqueNode] at entered
          cases entered

/-- The leaves of a tree are those with an address, from left to right. -/
theorem exists_leavesInOrder (tree : Condition) :
    ∃ occurrences,
      LeavesInOrder tree occurrences ∧ occurrences.map Prod.snd = tree.leaves := by
  induction tree using children_induction with
  | step tree inductionHypothesis =>
      cases entered : tree.isEntered with
      | true =>
          obtain ⟨occurrences, listed, leaves⟩ := exists_leavesFrom 0 inductionHypothesis
          refine ⟨occurrences, ⟨listed.ordered, ?_⟩, ?_⟩
          · intro address leaf
            rw [listed.reached]
            constructor
            · rintro ⟨index, child, rest, rfl, isChild, found⟩
              rw [Nat.zero_add]
              exact .inside entered isChild found
            · intro found
              cases found with
              | here =>
                  cases entered
              | inside _ isChild found =>
                  exact ⟨_, _, _, by rw [Nat.zero_add], isChild, found⟩
          · rw [leaves, leaves_of_isEntered entered]
      | false =>
          cases tree with
          | expression text description =>
              exact ⟨_, leavesInOrder_expression text description, by simp [leaves]⟩
          | and | or | not | anyOf =>
              cases entered
          | _ =>
              exact ⟨[], leavesInOrder_nil entered (by simp), by simp [leaves]⟩

/-! ## Calls of a visitor -/

/-- A visitor has a state of its own, and a call may end with an error. -/
abbrev Visitor (ε σ : Type) :=
  Leaf → ExceptT ε (StateM σ) Unit

namespace Visitor

variable {ε σ : Type}

/-- How one call ends, and the visitor's state after it. -/
def call
    (visitor : Visitor ε σ)
    (leaf : Leaf)
    (state : σ) :
    Except ε Unit × σ :=
  (visitor leaf).run.run state

/-- The visitor that also notes the leaves on which it is called. -/
def noting (visitor : Visitor ε σ) : Visitor ε (List Leaf × σ) :=
  fun leaf => ExceptT.mk fun (called, state) =>
    ((visitor.call leaf state).1, (called ++ [leaf], (visitor.call leaf state).2))

theorem call_noting
    (visitor : Visitor ε σ)
    (leaf : Leaf)
    (called : List Leaf)
    (state : σ) :
    visitor.noting.call leaf (called, state) =
      ((visitor.call leaf state).1, (called ++ [leaf], (visitor.call leaf state).2)) :=
  rfl

/-- Called on some leaves one after the other, the visitor returns from each call. -/
inductive Returns (visitor : Visitor ε σ) : σ → List Leaf → σ → Prop where
  | nil (state : σ) : Returns visitor state [] state
  | cons
      {state next final : σ}
      {leaf : Leaf}
      {others : List Leaf}
      (returned : visitor.call leaf state = (.ok (), next))
      (later : Returns visitor next others final) :
      Returns visitor state (leaf :: others) final

/--
Calls on leaves up to the first that ends with an error: without an error they are
calls on all leaves, and otherwise the last of them ends with the error.
-/
def StopsAtError
    (visitor : Visitor ε σ)
    (leaves : List Leaf)
    (state : σ)
    (outcome : Except ε Unit)
    (called : List Leaf)
    (final : σ) :
    Prop :=
  (outcome = .ok () ∧ called = leaves ∧ visitor.Returns state leaves final) ∨
    ∃ before leaf later reached error,
      leaves = before ++ leaf :: later ∧
        visitor.Returns state before reached ∧
        visitor.call leaf reached = (.error error, final) ∧
        outcome = .error error ∧
        called = before ++ [leaf]

/-- The calls go on after one that returns. -/
theorem StopsAtError.cons
    {visitor : Visitor ε σ}
    {leaf : Leaf}
    {leaves called : List Leaf}
    {state next final : σ}
    {outcome : Except ε Unit}
    (returned : visitor.call leaf state = (.ok (), next))
    (stops : visitor.StopsAtError leaves next outcome called final) :
    visitor.StopsAtError (leaf :: leaves) state outcome (leaf :: called) final := by
  rcases stops with
    ⟨isOk, rfl, returns⟩ |
      ⟨before, last, later, reached, error, rfl, returns, failed, isError, rfl⟩
  · exact .inl ⟨isOk, rfl, .cons returned returns⟩
  · exact .inr ⟨leaf :: before, last, later, reached, error, rfl, .cons returned returns,
      failed, isError, rfl⟩

/-- A visit that fails at its first leaf has called that leaf only. -/
theorem StopsAtError.of_error
    {visitor : Visitor ε σ}
    {leaf : Leaf}
    (later : List Leaf)
    {state final : σ}
    {error : ε}
    (failed : visitor.call leaf state = (.error error, final)) :
    visitor.StopsAtError (leaf :: later) state (.error error) [leaf] final :=
  .inr ⟨[], leaf, later, state, error, rfl, .nil state, failed, rfl, rfl⟩

/-- After a call that returns, the visit goes on with the others in the new state. -/
theorem run_forM_of_returned
    {visitor : Visitor ε σ}
    {leaf : Leaf}
    {state next : σ}
    (returned : visitor.call leaf state = (.ok (), next))
    (others : List Leaf) :
    ((leaf :: others).forM visitor).run.run state = (others.forM visitor).run.run next := by
  rw [call] at returned
  rw [List.forM_eq_forM, List.forM_cons, ExceptT.run_bind, StateT.run_bind, returned]
  rfl

/-- After a call that fails, nothing else is visited. -/
theorem run_forM_of_failed
    {visitor : Visitor ε σ}
    {leaf : Leaf}
    {state final : σ}
    {error : ε}
    (failed : visitor.call leaf state = (.error error, final))
    (others : List Leaf) :
    ((leaf :: others).forM visitor).run.run state = (.error error, final) := by
  rw [call] at failed
  rw [List.forM_eq_forM, List.forM_cons, ExceptT.run_bind, StateT.run_bind, failed]
  rfl

/-- Going through leaves calls the visitor until a call ends with an error. -/
theorem run_forM
    (visitor : Visitor ε σ)
    (leaves noted : List Leaf)
    (state : σ) :
    ∃ outcome called final,
      visitor.StopsAtError leaves state outcome called final ∧
        (leaves.forM visitor).run.run state = (outcome, final) ∧
        (leaves.forM visitor.noting).run.run (noted, state) =
          (outcome, (noted ++ called, final)) := by
  -- Both the notes and the visitor's state grow from call to call.
  induction leaves generalizing noted state with
  | nil =>
      refine ⟨.ok (), [], state, .inl ⟨rfl, rfl, .nil state⟩, rfl, ?_⟩
      rw [List.append_nil]
      rfl
  | cons leaf others inductionHypothesis =>
      cases ended : visitor.call leaf state with
      | mk result next =>
          have endedNoting :
              visitor.noting.call leaf (noted, state) = (result, (noted ++ [leaf], next)) := by
            rw [call_noting, ended]
          cases result with
          | error error =>
              exact ⟨.error error, [leaf], next, .of_error others ended,
                run_forM_of_failed ended others, run_forM_of_failed endedNoting others⟩
          | ok =>
              obtain ⟨outcome, called, final, stops, runs, runsNoting⟩ :=
                inductionHypothesis (noted ++ [leaf]) next
              refine ⟨outcome, leaf :: called, final, stops.cons ended, ?_, ?_⟩
              · rw [run_forM_of_returned ended, runs]
              · rw [run_forM_of_returned endedNoting, runsNoting, List.append_assoc]
                rfl

end Visitor

/--
A visit calls the visitor on the leaves with an address, in the order of addresses, and
goes no further than the first call that ends with an error, which it passes on.
-/
theorem visit_calls_leaves_up_to_error (tree : Condition) :
    ∃ occurrences,
      LeavesInOrder tree occurrences ∧
        ∀ {ε σ : Type} (visitor : Visitor ε σ) (state : σ),
          ∃ outcome called final,
            visitor.StopsAtError (occurrences.map Prod.snd) state outcome called final ∧
              (tree.visit visitor).run.run state = (outcome, final) ∧
              (tree.visit visitor.noting).run.run ([], state) = (outcome, (called, final)) := by
  obtain ⟨occurrences, inOrder, leaves⟩ := exists_leavesInOrder tree
  refine ⟨occurrences, inOrder, ?_⟩
  intro ε σ visitor state
  rw [leaves, visit_eq_forM, visit_eq_forM]
  exact visitor.run_forM tree.leaves [] state

end WorkflowConditions.Condition
