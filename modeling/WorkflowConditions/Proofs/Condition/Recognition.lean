import WorkflowConditions.Condition.Parse
import WorkflowConditions.Proofs.Condition.Grammar
import WorkflowConditions.Proofs.Token.Seam

namespace WorkflowConditions

open Grammar (Phrase Derives Sentence)

/-!
# The reader accepts exactly the grammar

Reading is a machine that takes one token at a time.  Completeness follows a
derivation: from any place at which a phrase may begin, the machine reads the
phrase and holds its tree.  Soundness follows a run: every place that the machine
reaches describes the tokens read so far as unfinished phrases of the grammar.
Because the machine is deterministic, a token sequence has at most one tree.
-/

namespace Parser

namespace Level

/-- A further negation may be added inside or outside. -/
theorem negate_not
    (count : Nat)
    (operand : Condition) :
    negate count (.not operand) = .not (negate count operand) := by
  induction count with
  | zero =>
      rfl
  | succ count inductionHypothesis =>
      simp only [negate, inductionHypothesis]

/-- One more waiting negation applies to the operand that ends it. -/
theorem conjunction_negations_succ
    (level : Level)
    (operand : Condition) :
    ({ level with negations := level.negations + 1 } : Level).conjunction operand =
      level.conjunction (.not operand) := by
  simp only [conjunction, negate, negate_not]

end Level

namespace State

/-- The place after a whole list of tokens, if each of them can stand. -/
def advance? (state : State) : List Token → Option State
  | [] => some state
  | token :: rest => (state.step? token).bind fun next => next.advance? rest

/-- Tokens are read one part after the other. -/
theorem advance?_append
    (state : State)
    (first second : List Token) :
    state.advance? (first ++ second) =
      (state.advance? first).bind fun middle => middle.advance? second := by
  induction first generalizing state with
  | nil =>
      rfl
  | cons token rest inductionHypothesis =>
      cases stepped : state.step? token with
      | none =>
          simp [advance?, stepped]
      | some next =>
          simp [advance?, stepped, inductionHypothesis]

theorem advance?_concat
    (state : State)
    (tokens : List Token)
    (token : Token) :
    state.advance? (tokens ++ [token]) =
      (state.advance? tokens).bind fun middle => middle.step? token := by
  rw [advance?_append]
  congr 1
  funext middle
  cases stepped : middle.step? token <;>
    simp [advance?, stepped]

/-- Reading looks at the kinds and texts of tokens only. -/
theorem advance?_map_bare
    (state : State)
    (tokens : List Token) :
    state.advance? (tokens.map Token.bare) = state.advance? tokens := by
  induction tokens generalizing state with
  | nil =>
      rfl
  | cons token rest inductionHypothesis =>
      have sameStep : state.step? token.bare = state.step? token := by
        cases state <;> rfl
      simp only [List.map_cons, advance?, sameStep, inductionHypothesis]

end State

/-- A run ends well exactly when its last place holds a condition. -/
theorem run_eq_ok_iff
    {length : Nat}
    {state : State}
    {tokens : List Token}
    {tree : Condition} :
    run length state tokens = .ok tree ↔
      ∃ final,
        state.advance? tokens = some final ∧
          final.result? = some tree := by
  induction tokens generalizing state with
  | nil =>
      cases result : state.result? <;>
        simp [run, State.advance?, result]
  | cons token rest inductionHypothesis =>
      cases stepped : state.step? token with
      | none =>
          simp [run, State.advance?, stepped]
      | some next =>
          simp [run, State.advance?, stepped, inductionHypothesis]

/-! ## Every derivation is read -/

/--
What reading a phrase does at a place where the phrase may begin.

The later level keeps the finished disjuncts; what it still records of its
conjuncts and negations no longer matters once an operand has ended.
-/
def ReadsPhrase : Phrase → List Token → Condition → Prop
  | .operand, tokens, tree =>
      ∀ level outer,
        ∃ later,
          later.disjuncts = level.disjuncts ∧
            (State.expecting level outer).advance? tokens =
              some (.completed (level.conjunction tree) later outer)
  | .negation, tokens, tree =>
      ∀ level outer,
        ∃ later,
          later.disjuncts = level.disjuncts ∧
            (State.expecting level outer).advance? tokens =
              some (.completed (level.conjunction tree) later outer)
  | .conjunction, tokens, tree =>
      ∀ disjuncts outer,
        ∃ later,
          later.disjuncts = disjuncts ∧
            (State.expecting ⟨disjuncts, none, 0⟩ outer).advance? tokens =
              some (.completed tree later outer)
  | .disjunction, tokens, tree =>
      ∀ outer,
        ∃ disjunct later,
          later.disjunction disjunct = tree ∧
            (State.expecting .fresh outer).advance? tokens =
              some (.completed disjunct later outer)

/-- Parentheses open a level and close it again, and the level is an operand. -/
private theorem readsPhrase_group
    {opening closing : Token}
    {tokens : List Token}
    {tree : Condition}
    (opens : opening.kind = .leftParen)
    (inner : ReadsPhrase .disjunction tokens tree)
    (closes : closing.kind = .rightParen) :
    ReadsPhrase .operand (opening :: tokens ++ [closing]) tree := by
  intro level outer
  obtain ⟨disjunct, later, whole, reads⟩ := inner (level :: outer)
  refine ⟨level, rfl, ?_⟩
  have entered :
      (State.expecting level outer).step? opening =
        some (.expecting .fresh (level :: outer)) := by
    simp [State.step?, opens]
  have left :
      (State.completed disjunct later (level :: outer)).step? closing =
        some (.completed (level.conjunction tree) level outer) := by
    simp [State.step?, closes, State.complete, whole]
  rw [State.advance?_concat]
  simp [State.advance?, entered, reads, left]

/-- A negation waits for its operand and is then applied to it. -/
private theorem readsPhrase_not
    {negator : Token}
    {tokens : List Token}
    {tree : Condition}
    (negates : negator.kind = .not)
    (inner : ReadsPhrase .negation tokens tree) :
    ReadsPhrase .negation (negator :: tokens) (.not tree) := by
  intro level outer
  obtain ⟨later, kept, reads⟩ :=
    inner { level with negations := level.negations + 1 } outer
  refine ⟨later, kept, ?_⟩
  rw [Level.conjunction_negations_succ] at reads
  simpa [State.advance?, State.step?, negates] using reads

/-- A conjunct is added to those that are complete. -/
private theorem readsPhrase_and
    {connective : Token}
    {leftTokens rightTokens : List Token}
    {left right : Condition}
    (first : ReadsPhrase .conjunction leftTokens left)
    (joins : connective.kind = .and)
    (last : ReadsPhrase .negation rightTokens right) :
    ReadsPhrase .conjunction
      (leftTokens ++ connective :: rightTokens) (.and left right) := by
  intro disjuncts outer
  obtain ⟨middle, middleKept, readsLeft⟩ := first disjuncts outer
  obtain ⟨later, laterKept, readsRight⟩ :=
    last ⟨disjuncts, some left, 0⟩ outer
  refine ⟨later, laterKept, ?_⟩
  have stepped :
      (State.completed left middle outer).step? connective =
        some (.expecting ⟨disjuncts, some left, 0⟩ outer) := by
    simp [State.step?, joins, middleKept]
  rw [State.advance?_append, readsLeft]
  simpa [State.advance?, stepped, Level.conjunction, Level.negate]
    using readsRight

/-- A disjunct is added to those that are complete. -/
private theorem readsPhrase_or
    {connective : Token}
    {leftTokens rightTokens : List Token}
    {left right : Condition}
    (first : ReadsPhrase .disjunction leftTokens left)
    (joins : connective.kind = .or)
    (last : ReadsPhrase .conjunction rightTokens right) :
    ReadsPhrase .disjunction
      (leftTokens ++ connective :: rightTokens) (.or left right) := by
  intro outer
  obtain ⟨disjunct, middle, whole, readsLeft⟩ := first outer
  obtain ⟨later, laterKept, readsRight⟩ := last (some left) outer
  refine ⟨right, later, ?_, ?_⟩
  · simp [Level.disjunction, laterKept]
  · have stepped :
        (State.completed disjunct middle outer).step? connective =
          some (.expecting ⟨some left, none, 0⟩ outer) := by
      simp [State.step?, joins, whole]
    rw [State.advance?_append, readsLeft]
    simpa [State.advance?, stepped] using readsRight

/-- Every derived phrase is read, and the machine then holds its tree. -/
theorem readsPhrase_of_derives
    {phrase : Phrase}
    {tokens : List Token}
    {tree : Condition}
    (derived : Derives phrase tokens tree) :
    ReadsPhrase phrase tokens tree := by
  induction derived with
  | literal isLiteral =>
      intro level outer
      exact ⟨level, rfl, by
        simp [State.advance?, State.step?, isLiteral, State.complete]⟩
  | group opens _ closes inductionHypothesis =>
      exact readsPhrase_group opens inductionHypothesis closes
  | operand _ inductionHypothesis =>
      exact inductionHypothesis
  | not negates _ inductionHypothesis =>
      exact readsPhrase_not negates inductionHypothesis
  | negation _ inductionHypothesis =>
      intro disjuncts outer
      exact inductionHypothesis ⟨disjuncts, none, 0⟩ outer
  | and _ joins _ readsLeft readsRight =>
      exact readsPhrase_and readsLeft joins readsRight
  | conjunction _ inductionHypothesis =>
      intro outer
      obtain ⟨later, kept, reads⟩ := inductionHypothesis none outer
      exact ⟨_, later, by simp [Level.disjunction, kept], reads⟩
  | or _ joins _ readsLeft readsRight =>
      exact readsPhrase_or readsLeft joins readsRight

/-! ## Every reading is a derivation -/

/-- Finished operands of a chain, together with the connective behind them. -/
inductive Finished
    (phrase : Phrase)
    (connective : Token.Kind) :
    Option Condition → List Token → Prop where
  | nothing :
      Finished phrase connective none []
  | joined
      {token : Token}
      {tokens : List Token}
      {tree : Condition}
      (derived : Derives phrase tokens tree)
      (joins : token.kind = connective) :
      Finished phrase connective (some tree) (tokens ++ [token])

/-- The tokens that a level has read before the operand that comes next. -/
inductive Level.HasRead : Level → List Token → Prop where
  | intro
      {disjuncts conjuncts : Option Condition}
      {earlier current negators : List Token}
      (disjoined : Finished .disjunction .or disjuncts earlier)
      (conjoined : Finished .conjunction .and conjuncts current)
      (negates : ∀ token ∈ negators, token.kind = .not) :
      HasRead ⟨disjuncts, conjuncts, negators.length⟩
        (earlier ++ (current ++ negators))

/-- The tokens up to the parenthesis that opened the innermost group. -/
inductive OuterHasRead : List Level → List Token → Prop where
  | nil :
      OuterHasRead [] []
  | cons
      {level : Level}
      {outer : List Level}
      {before own : List Token}
      {opening : Token}
      (enclosing : OuterHasRead outer before)
      (levelRead : level.HasRead own)
      (opens : opening.kind = .leftParen) :
      OuterHasRead (level :: outer) (before ++ own ++ [opening])

/-- The tokens that have been read when the machine stands at a place. -/
inductive State.HasRead : State → List Token → Prop where
  | expecting
      {level : Level}
      {outer : List Level}
      {before own : List Token}
      (enclosing : OuterHasRead outer before)
      (levelRead : level.HasRead own) :
      HasRead (.expecting level outer) (before ++ own)
  | completed
      {disjunct : Condition}
      {level : Level}
      {outer : List Level}
      {before earlier own : List Token}
      (enclosing : OuterHasRead outer before)
      (disjoined : Finished .disjunction .or level.disjuncts earlier)
      (derived : Derives .conjunction own disjunct) :
      HasRead (.completed disjunct level outer) (before ++ (earlier ++ own))

/-- Right after a connective or a parenthesis no negation waits. -/
private theorem Level.hasRead_of_finished
    {disjuncts conjuncts : Option Condition}
    {earlier current : List Token}
    (disjoined : Finished .disjunction .or disjuncts earlier)
    (conjoined : Finished .conjunction .and conjuncts current) :
    Level.HasRead ⟨disjuncts, conjuncts, 0⟩ (earlier ++ current) := by
  have noNegator : ∀ token ∈ ([] : List Token), token.kind = .not := by
    simp
  simpa using Level.HasRead.intro disjoined conjoined noNegator

theorem Level.hasRead_fresh : Level.fresh.HasRead [] :=
  Level.hasRead_of_finished .nothing .nothing

/-- Negations before a phrase are derived one by one. -/
private theorem derives_negate
    {negators tokens : List Token}
    {operand : Condition}
    (negates : ∀ token ∈ negators, token.kind = .not)
    (derived : Derives .negation tokens operand) :
    Derives .negation (negators ++ tokens)
      (Level.negate negators.length operand) := by
  induction negators with
  | nil =>
      exact derived
  | cons negator rest inductionHypothesis =>
      have restNegates : ∀ token ∈ rest, token.kind = .not :=
        fun token member => negates token (by simp [member])
      exact .not (negates negator (by simp))
        (inductionHypothesis restNegates)

/-- The conjuncts that are complete and a negated operand make a conjunction. -/
private theorem derives_conjunction
    {conjuncts : Option Condition}
    {disjuncts : Option Condition}
    {current negators tokens : List Token}
    {operand : Condition}
    (conjoined : Finished .conjunction .and conjuncts current)
    (negates : ∀ token ∈ negators, token.kind = .not)
    (derived : Derives .operand tokens operand) :
    Derives .conjunction (current ++ (negators ++ tokens))
      (Level.conjunction
        ⟨disjuncts, conjuncts, negators.length⟩ operand) := by
  have negated := derives_negate negates (.operand derived)
  cases conjoined with
  | nothing =>
      exact .negation negated
  | joined first joins =>
      simpa [Level.conjunction] using Derives.and first joins negated

/-- The disjuncts that are complete and a conjunction make a disjunction. -/
private theorem derives_disjunction
    {level : Level}
    {earlier tokens : List Token}
    {disjunct : Condition}
    (disjoined : Finished .disjunction .or level.disjuncts earlier)
    (derived : Derives .conjunction tokens disjunct) :
    Derives .disjunction (earlier ++ tokens)
      (level.disjunction disjunct) := by
  cases level with
  | mk disjuncts conjuncts negations =>
      cases disjoined with
      | nothing =>
          exact .conjunction derived
      | joined first joins =>
          simpa [Level.disjunction] using Derives.or first joins derived

/-- After an operand the place has read the tokens before it and those of the operand. -/
private theorem State.hasRead_complete
    {level : Level}
    {outer : List Level}
    {before own tokens : List Token}
    {operand : Condition}
    (enclosing : OuterHasRead outer before)
    (levelRead : level.HasRead own)
    (derived : Derives .operand tokens operand) :
    (State.complete operand level outer).HasRead
      (before ++ own ++ tokens) := by
  cases levelRead with
  | intro disjoined conjoined negates =>
      simpa [State.complete] using
        State.HasRead.completed enclosing disjoined
          (derives_conjunction conjoined negates derived)

/-- One step keeps the account of what has been read. -/
theorem State.HasRead.step
    {state next : State}
    {tokens : List Token}
    {token : Token}
    (read : state.HasRead tokens)
    (stepped : state.step? token = some next) :
    next.HasRead (tokens ++ [token]) := by
  cases read with
  | @expecting level outer before own enclosing levelRead =>
      simp only [State.step?] at stepped
      split at stepped
      case h_1 isLiteral =>
        cases stepped
        exact State.hasRead_complete enclosing levelRead
          (.literal isLiteral)
      case h_2 isNot =>
        cases stepped
        cases levelRead with
        | @intro disjuncts conjuncts earlier current negators
            disjoined conjoined negates =>
            have oneMore : ∀ item ∈ negators ++ [token], item.kind = .not := by
              intro item member
              rcases List.mem_append.mp member with earlierNegator | isLast
              · exact negates item earlierNegator
              · rw [List.mem_singleton.mp isLast]
                exact isNot
            simpa using
              State.HasRead.expecting enclosing
                (.intro disjoined conjoined oneMore)
      case h_3 opens =>
        cases stepped
        simpa using
          State.HasRead.expecting
            (.cons enclosing levelRead opens) Level.hasRead_fresh
      case h_4 =>
        cases stepped
  | @completed disjunct level outer before earlier own
      enclosing disjoined derived =>
      simp only [State.step?] at stepped
      split at stepped
      case h_1 isAnd =>
        cases stepped
        simpa using
          State.HasRead.expecting enclosing
            (Level.hasRead_of_finished disjoined (.joined derived isAnd))
      case h_2 isOr =>
        cases stepped
        simpa using
          State.HasRead.expecting enclosing
            (Level.hasRead_of_finished
              (.joined (derives_disjunction disjoined derived) isOr)
              .nothing)
      case h_3 closes =>
        cases enclosing with
        | nil =>
            cases stepped
        | cons further levelRead opens =>
            cases stepped
            simpa using
              State.hasRead_complete further levelRead
                (.group opens (derives_disjunction disjoined derived) closes)
      case h_4 =>
        cases stepped

/-- A whole run keeps the account of what has been read. -/
theorem State.HasRead.advance
    {state final : State}
    {earlier tokens : List Token}
    (read : state.HasRead earlier)
    (advanced : state.advance? tokens = some final) :
    final.HasRead (earlier ++ tokens) := by
  induction tokens generalizing state earlier with
  | nil =>
      cases advanced
      simpa using read
  | cons token rest inductionHypothesis =>
      obtain ⟨next, stepped, later⟩ := Option.bind_eq_some_iff.mp advanced
      simpa using inductionHypothesis (read.step stepped) later

theorem State.hasRead_start : State.start.HasRead [] :=
  .expecting .nil Level.hasRead_fresh

/-- A condition that the machine holds at the end is derived by what it read. -/
theorem State.HasRead.sentence
    {state : State}
    {tokens : List Token}
    {tree : Condition}
    (read : state.HasRead tokens)
    (result : state.result? = some tree) :
    Sentence tokens tree := by
  cases read with
  | expecting =>
      simp [State.result?] at result
  | completed enclosing disjoined derived =>
      cases enclosing with
      | nil =>
          simp only [State.result?, Option.some.injEq] at result
          subst tree
          simpa using derives_disjunction disjoined derived
      | cons =>
          simp [State.result?] at result

/-! ## Recognition -/

/-- From the start the machine arrives at a condition exactly on its sentences. -/
theorem exists_result_iff_sentence
    {tokens : List Token}
    {tree : Condition} :
    (∃ final,
        State.start.advance? tokens = some final ∧
          final.result? = some tree) ↔
      Sentence tokens tree := by
  constructor
  · rintro ⟨final, advanced, result⟩
    exact (State.hasRead_start.advance advanced).sentence result
  · intro derived
    obtain ⟨disjunct, later, whole, reads⟩ :=
      readsPhrase_of_derives derived []
    exact ⟨_, reads, by simp [State.result?, whole]⟩

/-- Tokens are accepted exactly when the grammar derives their tree. -/
theorem run_start_eq_ok_iff
    {length : Nat}
    {tokens : List Token}
    {tree : Condition} :
    run length .start tokens = .ok tree ↔ Sentence tokens tree :=
  run_eq_ok_iff.trans exists_result_iff_sentence

end Parser

/-- The grammar is unambiguous: the reader is a function. -/
theorem Grammar.sentence_unique
    {tokens : List Token}
    {first second : Condition}
    (firstDerived : Sentence tokens first)
    (secondDerived : Sentence tokens second) :
    first = second := by
  have firstRun : Parser.run 0 .start tokens = .ok first :=
    Parser.run_start_eq_ok_iff.mpr firstDerived
  have secondRun : Parser.run 0 .start tokens = .ok second :=
    Parser.run_start_eq_ok_iff.mpr secondDerived
  exact Except.ok.inj (firstRun.symm.trans secondRun)

/-- A sentence is one wherever its tokens stand. -/
theorem Grammar.sentence_map_bare_iff
    {tokens : List Token}
    {tree : Condition} :
    Sentence (tokens.map Token.bare) tree ↔ Sentence tokens tree := by
  rw [← Parser.exists_result_iff_sentence,
    ← Parser.exists_result_iff_sentence, Parser.State.advance?_map_bare]

/-- Reading a text succeeds exactly when its tokens are a sentence. -/
theorem Condition.parse_eq_ok_iff
    {source : String}
    {tree : Condition} :
    parse source = .ok tree ↔ Sentence (Token.body source) tree := by
  unfold parse
  cases blank : Text.isBlankText source with
  | true =>
      rw [Token.body_of_isBlankText blank]
      simp only [if_true]
      constructor
      · intro impossible
        cases impossible
      · intro derived
        exact (derived.ne_nil rfl).elim
  | false =>
      simp only [Bool.false_eq_true, if_false]
      exact Parser.run_start_eq_ok_iff

/-- Whether a text is accepted does not depend on where its tokens stand. -/
theorem Condition.parse_eq_ok_iff_bareTokens
    {source : String}
    {tree : Condition} :
    parse source = .ok tree ↔
      Sentence (Token.bareTokens source.toList) tree :=
  parse_eq_ok_iff.trans Grammar.sentence_map_bare_iff.symm

/-- A text with a token is not blank, so it is enough to read its tokens. -/
theorem Condition.parse_eq_ok_of_run
    {source : String}
    {tokens : List Token}
    {tree : Condition}
    (scanned : Token.body source = tokens)
    (finished : Parser.run source.length .start tokens = .ok tree) :
    parse source = .ok tree := by
  rw [parse_eq_ok_iff, scanned]
  exact Parser.run_start_eq_ok_iff.mp finished

/--
A text is accepted with a tree exactly when its tokens derive that tree in the
grammar, and no token sequence derives two trees.
-/
theorem Condition.parse_accepts_exactly_grammar :
    (∀ (source : String) (tree : Condition),
        parse source = .ok tree ↔ Sentence (Token.body source) tree) ∧
      ∀ (tokens : List Token) (first second : Condition),
        Sentence tokens first →
        Sentence tokens second →
        first = second :=
  ⟨fun _ _ => parse_eq_ok_iff,
    fun _ _ _ firstDerived secondDerived =>
      Grammar.sentence_unique firstDerived secondDerived⟩

/-- Conjunction binds tighter than disjunction, and disjunctions nest left. -/
theorem Condition.parse_accepts_exactly_grammar_of_mixed_chain :
    ∀ tree,
      Sentence (Token.body "a || b && !(c || d) || e") tree ↔
        tree =
          .or
            (.or
              (.leaf "a")
              (.and (.leaf "b") (.not (.or (.leaf "c") (.leaf "d")))))
            (.leaf "e") := by
  obtain ⟨accepts, unique⟩ := parse_accepts_exactly_grammar
  have scanned :
      Token.body "a || b && !(c || d) || e" =
        [⟨.literal, "a", 0⟩, ⟨.or, "||", 2⟩, ⟨.literal, "b", 5⟩,
          ⟨.and, "&&", 7⟩, ⟨.not, "!", 10⟩, ⟨.leftParen, "(", 11⟩,
          ⟨.literal, "c", 12⟩, ⟨.or, "||", 14⟩, ⟨.literal, "d", 17⟩,
          ⟨.rightParen, ")", 18⟩, ⟨.or, "||", 20⟩, ⟨.literal, "e", 23⟩] := by
    decide +kernel
  have derived :
      Sentence (Token.body "a || b && !(c || d) || e")
        (.or
          (.or
            (.leaf "a")
            (.and (.leaf "b") (.not (.or (.leaf "c") (.leaf "d")))))
          (.leaf "e")) :=
    (accepts _ _).mp (parse_eq_ok_of_run scanned rfl)
  intro tree
  constructor
  · intro other
    exact unique _ _ _ other derived
  · rintro rfl
    exact derived

end WorkflowConditions
