import WorkflowConditions.Proofs.Condition.Recognition

namespace WorkflowConditions

open Grammar (Phrase Derives Sentence Viable)

/-!
# Errors point at the first impossible token

A token sequence is viable when it begins some sentence.  The machine can read
exactly the viable sequences, since every place it reaches can still be led to
the end of a sentence: an operand, where one is expected, and then a closing
parenthesis for every group that is open.  An error is therefore reported at the
first token that no sentence continues with.
-/

namespace Grammar

/--
The index of the first token that makes a sequence impossible.  The length of the
sequence stands for its end, which is impossible when the sequence begins a
sentence without being one.
-/
structure FirstImpossible (tokens : List Token) (index : Nat) : Prop where
  viable :
    ∀ earlier ≤ index,
      Viable (tokens.take earlier)
  impossible :
    (index < tokens.length ∧ ¬Viable (tokens.take (index + 1))) ∨
      (index = tokens.length ∧ ∀ tree, ¬Sentence tokens tree)

/-- No impossible token comes before the first one, so the first one is unique. -/
private theorem FirstImpossible.not_lt
    {tokens : List Token}
    {index other : Nat}
    (first : FirstImpossible tokens index)
    (second : FirstImpossible tokens other) :
    ¬index < other := by
  intro later
  rcases first.impossible with ⟨_, stuck⟩ | ⟨atEnd, _⟩
  · exact stuck (second.viable (index + 1) later)
  · rcases second.impossible with ⟨inside, _⟩ | ⟨alsoAtEnd, _⟩
    · omega
    · omega

/-- A sequence has at most one first impossible token. -/
theorem FirstImpossible.unique
    {tokens : List Token}
    {index other : Nat}
    (first : FirstImpossible tokens index)
    (second : FirstImpossible tokens other) :
    index = other :=
  Nat.le_antisymm
    (Nat.not_lt.mp (second.not_lt first))
    (Nat.not_lt.mp (first.not_lt second))

/--
A closing parenthesis is missing behind some tokens: an operand has just ended
and more groups were opened than closed.
-/
def LacksClosing (before : List Token) : Prop :=
  (∃ last ∈ before.getLast?,
      last.kind = .literal ∨ last.kind = .rightParen) ∧
    before.countP (·.kind = .rightParen) <
      before.countP (·.kind = .leftParen)

end Grammar

namespace Parser

/-- A failed run stops at its end or at a token that cannot stand. -/
theorem exists_stop_of_run_eq_error
    {length : Nat}
    {state : State}
    {tokens : List Token}
    {error : ParseError}
    (failed : run length state tokens = .error error) :
    (∃ final,
        state.advance? tokens = some final ∧
          final.result? = none ∧
          error = final.errorAt (.atEnd length)) ∨
      ∃ before token after middle,
        tokens = before ++ token :: after ∧
          state.advance? before = some middle ∧
          middle.step? token = none ∧
          error = middle.errorAt token := by
  induction tokens generalizing state with
  | nil =>
      left
      cases result : state.result? with
      | none =>
          rw [run, result] at failed
          exact ⟨state, rfl, result, (Except.error.inj failed).symm⟩
      | some tree =>
          simp [run, result] at failed
  | cons token rest inductionHypothesis =>
      cases stepped : state.step? token with
      | none =>
          right
          rw [run, stepped] at failed
          exact ⟨[], token, rest, state, rfl, rfl, stepped,
            (Except.error.inj failed).symm⟩
      | some next =>
          rw [run, stepped] at failed
          rcases inductionHypothesis failed with
            ⟨final, advanced, result, same⟩ |
              ⟨before, last, after, middle, split, advanced, stuck, same⟩
          · left
            refine ⟨final, ?_, result, same⟩
            simpa [State.advance?, stepped] using advanced
          · right
            refine ⟨token :: before, last, after, middle, ?_, ?_, stuck, same⟩
            · rw [split, List.cons_append]
            · simpa [State.advance?, stepped] using advanced

namespace State

/-- The groups that are open at a place, from the innermost one. -/
def outer : State → List Level
  | .expecting _ outer => outer
  | .completed _ _ outer => outer

/-- Whether an operand has just ended at a place. -/
def hasOperand : State → Bool
  | .expecting _ _ => false
  | .completed _ _ _ => true

/-- Once an operand has ended, closing all open groups completes a condition. -/
private theorem exists_closing
    (disjunct : Condition)
    (level : Level)
    (groups : List Level) :
    ∃ rest final tree,
      (State.completed disjunct level groups).advance? rest = some final ∧
        final.result? = some tree := by
  induction groups generalizing disjunct level with
  | nil =>
      exact ⟨[], _, _, rfl, rfl⟩
  | cons enclosing others inductionHypothesis =>
      obtain ⟨rest, final, tree, advanced, result⟩ :=
        inductionHypothesis
          (enclosing.conjunction (level.disjunction disjunct)) enclosing
      exact ⟨⟨.rightParen, ")", 0⟩ :: rest, final, tree, advanced, result⟩

/-- Every place can still be led to the end of a sentence. -/
theorem exists_continuation
    (state : State) :
    ∃ rest final tree,
      state.advance? rest = some final ∧
        final.result? = some tree := by
  cases state with
  | expecting level groups =>
      obtain ⟨rest, final, tree, advanced, result⟩ :=
        exists_closing (level.conjunction (.leaf "true")) level groups
      exact ⟨⟨.literal, "true", 0⟩ :: rest, final, tree, advanced, result⟩
  | completed disjunct level groups =>
      exact exists_closing disjunct level groups

end State

/-- The machine reads exactly the sequences that begin a sentence. -/
theorem viable_iff
    {tokens : List Token} :
    Viable tokens ↔ ∃ state, State.start.advance? tokens = some state := by
  constructor
  · rintro ⟨rest, tree, derived⟩
    obtain ⟨final, advanced, _⟩ := exists_result_iff_sentence.mpr derived
    rw [State.advance?_append] at advanced
    obtain ⟨state, reached, _⟩ := Option.bind_eq_some_iff.mp advanced
    exact ⟨state, reached⟩
  · rintro ⟨state, reached⟩
    obtain ⟨rest, final, tree, advanced, result⟩ := state.exists_continuation
    refine ⟨rest, tree, exists_result_iff_sentence.mp ⟨final, ?_, result⟩⟩
    rw [State.advance?_append, reached]
    exact advanced

/-- The tokens before a place can be continued if those up to a later place can. -/
theorem viable_of_append
    {before after : List Token}
    (viable : Viable (before ++ after)) :
    Viable before := by
  obtain ⟨rest, tree, derived⟩ := viable
  exact ⟨after ++ rest, tree, by rwa [← List.append_assoc]⟩

/-- What one token does to the open groups and to the operand before it. -/
theorem State.step_account
    {state next : State}
    {token : Token}
    (stepped : state.step? token = some next) :
    (next.hasOperand = true ↔
        token.kind = .literal ∨ token.kind = .rightParen) ∧
      next.outer.length + (if token.kind = .rightParen then 1 else 0) =
        state.outer.length + (if token.kind = .leftParen then 1 else 0) := by
  cases state with
  | expecting level groups =>
      simp only [State.step?] at stepped
      split at stepped <;>
        cases stepped <;>
        simp_all [State.hasOperand, State.outer, State.complete]
  | completed disjunct level groups =>
      simp only [State.step?] at stepped
      split at stepped
      case h_3 closes =>
        cases groups with
        | nil =>
            cases stepped
        | cons enclosing others =>
            cases stepped
            simp [State.hasOperand, State.outer, State.complete, closes]
      all_goals
        cases stepped <;>
          simp_all [State.hasOperand, State.outer]

/-- Open groups are counted by the parentheses that have been read. -/
theorem State.outer_length_advance
    {state final : State}
    {tokens : List Token}
    (advanced : state.advance? tokens = some final) :
    final.outer.length + tokens.countP (·.kind = .rightParen) =
      state.outer.length + tokens.countP (·.kind = .leftParen) := by
  induction tokens generalizing state with
  | nil =>
      cases advanced
      rfl
  | cons token rest inductionHypothesis =>
      obtain ⟨next, stepped, later⟩ := Option.bind_eq_some_iff.mp advanced
      have whole := inductionHypothesis later
      have step := (State.step_account stepped).2
      simp only [List.countP_cons, decide_eq_true_eq]
      omega

/-- An operand has just ended exactly behind a literal or a closed group. -/
theorem State.hasOperand_iff
    {tokens : List Token}
    {state : State}
    (advanced : State.start.advance? tokens = some state) :
    state.hasOperand = true ↔
      ∃ last ∈ tokens.getLast?,
        last.kind = .literal ∨ last.kind = .rightParen := by
  rcases List.eq_nil_or_concat tokens with rfl | ⟨earlier, last, rfl⟩
  · cases advanced
    simp [State.start, State.hasOperand]
  · rw [List.concat_eq_append, State.advance?_concat] at advanced
    obtain ⟨middle, _, stepped⟩ := Option.bind_eq_some_iff.mp advanced
    simpa using (State.step_account stepped).1

/-- The error at a place says whether a closing parenthesis is missing there. -/
theorem State.message_errorAt
    {before : List Token}
    {state : State}
    (advanced : State.start.advance? before = some state)
    (token : Token) :
    (Grammar.LacksClosing before →
        (state.errorAt token).message =
          "expected ')' at position " ++ toString token.position) ∧
      (¬Grammar.LacksClosing before →
        (state.errorAt token).message =
          "unexpected token '" ++ token.text ++ "' at position " ++
            toString token.position) := by
  have operand := State.hasOperand_iff advanced
  have counted := State.outer_length_advance advanced
  cases state with
  | expecting level groups =>
      constructor
      · rintro ⟨ended, _⟩
        have impossible := operand.mpr ended
        cases impossible
      · intro _
        rfl
  | completed disjunct level groups =>
      have ended := operand.mp rfl
      cases groups with
      | nil =>
          constructor
          · rintro ⟨_, more⟩
            simp only [State.outer, State.start, List.length_nil] at counted
            omega
          · intro _
            rfl
      | cons enclosing others =>
          constructor
          · intro _
            rfl
          · intro complete
            have more :
                before.countP (·.kind = .rightParen) <
                  before.countP (·.kind = .leftParen) := by
              simp only [State.outer, State.start, List.length_cons,
                List.length_nil] at counted
              omega
            exact (complete ⟨ended, more⟩).elim

/-- An error names the token at which it arises and its position. -/
theorem State.errorAt_token
    (state : State)
    (token : Token) :
    (state.errorAt token).position = token.position ∧
      (state.errorAt token).token = token.text := by
  cases state with
  | expecting level groups =>
      exact ⟨rfl, rfl⟩
  | completed disjunct level groups =>
      cases groups with
      | nil =>
          exact ⟨rfl, rfl⟩
      | cons enclosing others =>
          exact ⟨rfl, rfl⟩

/-- A failed run from the start reports its first impossible token. -/
theorem exists_firstImpossible_of_run_eq_error
    {length : Nat}
    {tokens : List Token}
    {error : ParseError}
    (failed : run length .start tokens = .error error) :
    ∃ index state,
      Grammar.FirstImpossible tokens index ∧
        State.start.advance? (tokens.take index) = some state ∧
        error = state.errorAt (tokens[index]?.getD (.atEnd length)) := by
  rcases exists_stop_of_run_eq_error failed with
    ⟨final, advanced, unfinished, same⟩ |
      ⟨before, token, after, middle, rfl, advanced, stuck, same⟩
  · refine ⟨tokens.length, final, ⟨?_, .inr ⟨rfl, ?_⟩⟩, ?_, ?_⟩
    · intro earlier _
      have viable : Viable tokens := viable_iff.mpr ⟨final, advanced⟩
      rw [← List.take_append_drop earlier tokens] at viable
      exact viable_of_append viable
    · intro tree derived
      obtain ⟨reached, sameAdvanced, result⟩ :=
        exists_result_iff_sentence.mpr derived
      rw [advanced] at sameAdvanced
      cases sameAdvanced
      rw [unfinished] at result
      cases result
    · rw [List.take_length]
      exact advanced
    · simpa using same
  · refine ⟨before.length, middle, ⟨?_, .inl ⟨by simp, ?_⟩⟩, ?_, ?_⟩
    · intro earlier bound
      have viable : Viable before := viable_iff.mpr ⟨middle, advanced⟩
      rw [List.take_append_of_le_length bound]
      rw [← List.take_append_drop earlier before] at viable
      exact viable_of_append viable
    · intro viable
      obtain ⟨state, reached⟩ := viable_iff.mp viable
      rw [List.take_append, List.take_of_length_le (Nat.le_succ _),
        Nat.add_sub_cancel_left, List.take_succ_cons, List.take_zero,
        State.advance?_concat, advanced] at reached
      rw [Option.bind_some, stuck] at reached
      cases reached
    · rw [List.take_left]
      exact advanced
    · simpa using same

end Parser

private theorem expected_ne_unexpected
    (position text : String) :
    "expected ')' at position " ++ position ≠
      "unexpected token '" ++ text ++ "' at position " ++ position := by
  intro same
  have firsts := congrArg (fun message => message.toList.head?) same
  simp at firsts

/--
A text that is not blank and is no condition is rejected at its first impossible
token, its end included.  The report asks for a closing parenthesis exactly when
one is missing there, and otherwise names the token.
-/
theorem Condition.parse_error_at_first_impossible
    {source : String}
    {error : ParseError}
    (visible : Text.isBlankText source = false)
    (rejected : parse source = .error error) :
    ∃ index token,
      Grammar.FirstImpossible (Token.body source) index ∧
        (∀ other,
          Grammar.FirstImpossible (Token.body source) other →
          other = index) ∧
        token = (Token.body source)[index]?.getD (.atEnd source.length) ∧
        error.position = token.position ∧
        error.token = token.text ∧
        (error.message =
            "expected ')' at position " ++ toString token.position ↔
          Grammar.LacksClosing ((Token.body source).take index)) ∧
        (¬Grammar.LacksClosing ((Token.body source).take index) →
          error.message =
            "unexpected token '" ++ token.text ++ "' at position " ++
              toString token.position) := by
  rw [parse, visible] at rejected
  obtain ⟨index, state, first, advanced, rfl⟩ :=
    Parser.exists_firstImpossible_of_run_eq_error rejected
  generalize found :
    (Token.body source)[index]?.getD (.atEnd source.length) = token
  obtain ⟨position, text⟩ := state.errorAt_token token
  obtain ⟨expected, unexpected⟩ :=
    Parser.State.message_errorAt advanced token
  refine ⟨index, token, first, fun _ second => second.unique first,
    found.symm, position, text, ⟨?_, expected⟩, unexpected⟩
  intro asksForClosing
  by_contra complete
  exact expected_ne_unexpected _ _
    (asksForClosing.symm.trans (unexpected complete))

/-- A negation behind a call shows that the group around the call is open. -/
theorem Condition.parse_error_at_first_impossible_of_open_group :
    parse "(f(x) !b" = .error (.unclosed "!" 6) ∧
      Grammar.FirstImpossible (Token.body "(f(x) !b") 2 ∧
      Grammar.LacksClosing ((Token.body "(f(x) !b").take 2) := by
  have visible : Text.isBlankText "(f(x) !b" = false := by
    decide +kernel
  have scanned :
      Token.body "(f(x) !b" =
        [⟨.leftParen, "(", 0⟩, ⟨.literal, "f(x)", 1⟩, ⟨.not, "!", 6⟩,
          ⟨.literal, "b", 7⟩] := by
    decide +kernel
  have rejected : parse "(f(x) !b" = .error (.unclosed "!" 6) := by
    rw [parse, visible, scanned]
    rfl
  obtain ⟨index, token, first, _, isToken, position, _, asks, _⟩ :=
    parse_error_at_first_impossible visible rejected
  have third : index = 2 := by
    rw [isToken, scanned] at position
    match index with
    | 0 | 1 | 3 =>
        cases position
    | 2 =>
        rfl
    | later + 4 =>
        have length : "(f(x) !b".length = 8 := by
          decide
        simp [Token.atEnd, ParseError.position, length] at position
  subst third
  refine ⟨rejected, first, asks.mp ?_⟩
  rw [← position]
  rfl

end WorkflowConditions
