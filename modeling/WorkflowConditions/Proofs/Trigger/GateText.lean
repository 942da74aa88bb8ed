import WorkflowConditions.Proofs.Condition.RoundTrip
import WorkflowConditions.Proofs.Condition.Tree
import WorkflowConditions.Proofs.Trigger.GateMeaning

namespace WorkflowConditions

open Condition (AtomText)
open Text (Cell Quotation cells cellsFrom)

/-!
# Names of commands in the text of a gate

A command's name is written between apostrophes as it is.  An apostrophe in the
name can therefore end the quotation, and what comes after it is read as part of the
gate.  The text of a gate is read back with the gate's meaning exactly when each of
its mentions is one closed literal, which holds of every name that cannot leave its
quotation.
-/

namespace Condition

/-- The truth value of a tree that was read depends on the texts of its leaves only. -/
theorem Plain.truth_congr
    {tree : Condition}
    (plain : tree.Plain)
    {first second : String → Bool}
    (agree : ∀ leaf ∈ tree.leaves, first leaf.text = second leaf.text) :
    tree.truth first = tree.truth second := by
  induction plain with
  | @leaf text _ =>
      exact agree ⟨text, ""⟩ (by simp [Condition.leaf, leaves])
  | and _ _ leftHypothesis rightHypothesis
  | or _ _ leftHypothesis rightHypothesis =>
      rw [leaves] at agree
      have leftSame :=
        leftHypothesis (fun leaf member => agree leaf (by simp [member]))
      have rightSame :=
        rightHypothesis (fun leaf member => agree leaf (by simp [member]))
      simp only [truth_and, truth_or, leftSame, rightSame]
  | not _ inductionHypothesis =>
      rw [leaves] at agree
      simp only [truth_not, inductionHypothesis agree]

theorem eachWellBuilt_of_forall
    {terms : List Condition}
    (built : ∀ term ∈ terms, term.WellBuilt) :
    EachWellBuilt terms := by
  induction terms with
  | nil =>
      trivial
  | cons term others inductionHypothesis =>
      exact ⟨built term (by simp),
        inductionHypothesis (fun item member => built item (by simp [member]))⟩

/-- Alternatives of well-built terms are well built, one of them or more. -/
theorem wellBuilt_alternatives
    {terms : List Condition}
    (nonempty : terms ≠ [])
    (built : ∀ term ∈ terms, term.WellBuilt) :
    (alternatives false terms).WellBuilt := by
  match terms with
  | [] =>
      exact (nonempty rfl).elim
  | [term] =>
      exact built term (by simp)
  | first :: second :: others =>
      exact ⟨nonempty, by simp, eachWellBuilt_of_forall built⟩

theorem isCall_alternatives
    (multiline : Bool)
    {terms : List Condition}
    (noCall : ∀ term ∈ terms, term.isCall = false) :
    (alternatives multiline terms).isCall = false := by
  match terms with
  | [] =>
      rfl
  | [term] =>
      exact noCall term (by simp)
  | first :: second :: others =>
      rfl

/-- Alternatives end in the text of the last one. -/
theorem suffix_render_alternatives
    (earlier : List Condition)
    (last : Condition) :
    last.render.toList <:+
      (alternatives false (earlier ++ [last])).render.toList := by
  cases earlier with
  | nil =>
      exact List.suffix_refl _
  | cons first others =>
      have joined :
          (alternatives false (first :: others ++ [last])).render =
            String.intercalate " || "
                ((first :: others).map render) ++ " || " ++ last.render := by
        have separate :=
          String.intercalate_append_of_ne_nil
            (l := (first :: others).map render) (m := [last.render])
            (s := " || ") (by simp) (by simp)
        rw [String.intercalate_singleton] at separate
        rw [← separate]
        cases others <;>
          simp [alternatives, render, renderEach_eq_map]
      rw [joined, String.toList_append]
      exact List.suffix_append _ _

end Condition

instance (text : String) : Decidable (AtomText text) :=
  decidable_of_iff
    (Token.scan text = [⟨.literal, text, 0⟩, .atEnd text.length] ∧
      Text.Closed text.toList)
    ⟨fun both => ⟨both.1, both.2⟩, fun atom => ⟨atom.scanned, atom.closed⟩⟩

namespace Guard

/-- The comparison with an event is one closed literal. -/
theorem atomText_event :
    ∀ guard ∈ table, AtomText guard.event.render := by
  decide +kernel

/-- The comparison for a kind of thread is one closed literal. -/
theorem atomText_thread (thread : Thread) :
    AtomText (Thread.condition thread).render := by
  cases thread <;>
    decide +kernel

/-- A name stands between apostrophes in the text of its mention. -/
theorem toList_render_mention
    (guard : Guard)
    (name : String) :
    (guard.mention name).render.toList =
      ("contains(" ++ guard.body ++ ", '").toList ++
        ('/' :: name.toList ++ ['\x27', ')']) := by
  simp [mention, Condition.render]

/-- The text of a mention begins with the name of its function, which no other atom does. -/
theorem head?_render_mention
    (guard : Guard)
    (name : String) :
    (guard.mention name).render.toList.head? = some 'c' := by
  rw [toList_render_mention]
  simp

theorem head?_render_event (guard : Guard) :
    guard.event.render.toList.head? ≠ some 'c' := by
  simp [event, Condition.eventIs, Condition.eventNamePath, Condition.render]

theorem head?_render_thread (thread : Thread) :
    (Thread.condition thread).render.toList.head? ≠ some 'c' := by
  cases thread <;>
    decide +kernel

/-! ## Names that stay inside their quotation -/

/--
A text that is quoted throughout when it stands between apostrophes: no apostrophe
in it ends the quotation for good, and no backslash in it takes the closing one along.
-/
structure Enclosed (text : List Char) : Prop where
  quoted : ∀ cell ∈ cellsFrom (.inside '\x27') text, cell.quoted = true
  unescaped : (Quotation.inside '\x27').after text = .inside '\x27'

/-- A text without apostrophes and backslashes cannot leave its quotation. -/
theorem enclosed_of_plain
    {text : List Char}
    (noApostrophe : '\x27' ∉ text)
    (noBackslash : '\\' ∉ text) :
    Enclosed text := by
  induction text with
  | nil =>
      exact ⟨by simp [cellsFrom], rfl⟩
  | cons c rest inductionHypothesis =>
      simp only [List.mem_cons, not_or] at noApostrophe noBackslash
      have stays : (Quotation.inside '\x27').next c = .inside '\x27' := by
        simp [Quotation.next, Ne.symm noApostrophe.1, Ne.symm noBackslash.1]
      have later := inductionHypothesis noApostrophe.2 noBackslash.2
      constructor
      · intro cell member
        rw [cellsFrom, stays] at member
        rcases List.mem_cons.mp member with rfl | inRest
        · rfl
        · exact later.quoted cell inRest
      · rw [Quotation.after_cons, stays]
        exact later.unescaped

/-- A literal takes quoted cells along, whatever they are. -/
private theorem literalLength_quoted
    (depth : Nat)
    {quoted : List Cell}
    (inside : ∀ cell ∈ quoted, cell.quoted = true)
    (rest : List Cell) :
    Token.literalLength depth (quoted ++ rest) =
      quoted.length + Token.literalLength depth rest := by
  induction quoted with
  | nil =>
      simp
  | cons cell others inductionHypothesis =>
      have isQuoted := inside cell (by simp)
      have notPlain (c : Char) : cell ≠ .plain c := by
        rintro rfl
        cases isQuoted
      have noOperator :
          Token.startsOperator (cell :: (others ++ rest)) = false := by
        cases operator : Token.startsOperator (cell :: (others ++ rest)) with
        | false =>
            rfl
        | true =>
            obtain ⟨c, plain, _⟩ := Token.exists_plain_of_startsOperator operator
            exact (notPlain c plain).elim
      have later :=
        inductionHypothesis (fun item member => inside item (by simp [member]))
      rw [List.cons_append,
        Token.literalLength_other (notPlain _) (notPlain _) (fun _ => noOperator),
        later, List.length_cons]
      omega

/-- What stands before the name opens one call and one quotation. -/
private theorem before_name :
    ∀ guard ∈ table,
      let before := ("contains(" ++ guard.body ++ ", '").toList
      Token.literalLength 0 (cells before) = before.length ∧
        Text.depth (cells before) = 1 ∧
        Quotation.outside.after before = .inside '\x27' := by
  decide +kernel

/-- What a mention's cells are: a call left open, quoted cells, and its closing. -/
private theorem exists_cells_mention
    {guard : Guard}
    (listed : guard ∈ table)
    {name : String}
    (enclosed : Enclosed ('/' :: name.toList)) :
    ∃ quoted : List Cell,
      cells (guard.mention name).render.toList =
          cells ("contains(" ++ guard.body ++ ", '").toList ++
            (quoted ++ [.plain ')']) ∧
        Token.Unfused (quoted ++ [.plain ')']) ∧
        ∀ cell ∈ quoted, cell.quoted = true := by
  obtain ⟨_, _, inside⟩ := before_name guard listed
  refine ⟨cellsFrom (.inside '\x27') ('/' :: name.toList) ++ [⟨'\x27', true⟩],
    ?_, ?_, ?_⟩
  · rw [toList_render_mention, Text.cells_append, inside, Text.cellsFrom_append,
      enclosed.unescaped, List.append_assoc]
    rfl
  · simp [Token.Unfused, cellsFrom]
  · intro cell member
    rcases List.mem_append.mp member with inName | isMark
    · exact enclosed.quoted cell inName
    · rw [List.mem_singleton.mp isMark]

/-- The mention of an enclosed name is one closed literal. -/
theorem atomText_mention_of_enclosed
    {guard : Guard}
    (listed : guard ∈ table)
    {name : String}
    (enclosed : Enclosed ('/' :: name.toList)) :
    AtomText (guard.mention name).render := by
  obtain ⟨whole, opened, inside⟩ := before_name guard listed
  obtain ⟨quoted, shape, unfused, allQuoted⟩ :=
    exists_cells_mention listed enclosed
  have reaches :
      Token.literalLength 0 (cells (guard.mention name).render.toList) =
        (guard.mention name).render.toList.length := by
    obtain ⟨inner, reached, continued⟩ :=
      Token.literalLength_append_of_eq unfused
        (whole.trans (Text.length_cells _).symm)
    obtain rfl : inner = 1 := by
      omega
    rw [literalLength_quoted 1 allQuoted, Token.literalLength_closing,
      ← shape] at continued
    rw [continued, ← Text.length_cells (guard.mention name).render.toList, shape]
    simp [Token.literalLength]
  have closed : Text.Closed (guard.mention name).render.toList := by
    constructor
    · rw [toList_render_mention, Quotation.after_append, inside,
        Quotation.after_append, enclosed.unescaped]
      rfl
    · rw [shape, Text.depth_append, Text.depth_append, opened,
        Text.depth_eq_zero_of_quoted allQuoted]
      rfl
  have trimmed :
      Text.trimChars (guard.mention name).render.toList =
        (guard.mention name).render.toList := by
    apply Text.trimBy_eq_self
    · rw [head?_render_mention]
      simp [Text.isSpace]
    · rw [toList_render_mention, List.getLast?_append, List.getLast?_append]
      simp [Text.isSpace]
  have first := head?_render_mention guard name
  cases letters : (guard.mention name).render.toList with
  | nil =>
      rw [letters] at first
      cases first
  | cons c rest =>
      obtain rfl : c = 'c' := by
        simpa [letters] using first
      rw [letters] at reaches trimmed
      have literal :=
        Token.isLiteral_of_reachesEnd (by decide) ⟨by decide, reaches⟩ trimmed
      rw [← letters, String.ofList_toList] at literal
      refine ⟨?_, closed⟩
      rw [Token.scan_eq, literal]
      rfl

end Guard

namespace GateRequest

/-! ## Reading back a gate -/

/-- A guard is well built when its mentions are closed literals. -/
theorem wellBuilt_condition
    {guard : Guard}
    {names : List String}
    (listed : guard ∈ Guard.table)
    (named : names ≠ [])
    (atoms : ∀ name ∈ names, AtomText (guard.mention name).render) :
    (guard.condition names).WellBuilt := by
  have event : guard.event.WellBuilt :=
    Guard.atomText_event guard listed
  have mentions : (Guard.mentions names guard.body).WellBuilt := by
    apply Condition.wellBuilt_alternatives
    · simpa using named
    · intro term member
      obtain ⟨name, inNames, rfl⟩ := List.mem_map.mp member
      exact atoms name inNames
  rcases guard with ⟨identifier, body, _ | thread⟩
  · exact ⟨event, mentions⟩
  · have admitted : (Guard.Thread.condition thread).WellBuilt := by
      have atom := Guard.atomText_thread thread
      cases thread <;>
        exact atom
    exact ⟨event, mentions, admitted⟩

theorem isCall_discriminator (request : GateRequest) :
    request.discriminator.isCall = false := by
  apply Condition.isCall_alternatives
  intro term member
  obtain ⟨name, _, rfl⟩ := List.mem_map.mp member
  rfl

/-- A gate is well built when all mentions in it are closed literals. -/
theorem wellBuilt_built
    {request : GateRequest}
    (named : request.names ≠ [])
    (guarded : request.guards ≠ [])
    (atoms :
      ∀ guard ∈ request.guards,
        ∀ name ∈ request.names,
          AtomText (guard.mention name).render) :
    request.built.WellBuilt := by
  have commands : request.commands.WellBuilt := by
    apply Condition.wellBuilt_alternatives
    · simpa using guarded
    · intro term member
      obtain ⟨guard, inGuards, rfl⟩ := List.mem_map.mp member
      exact wellBuilt_condition (mem_guards_iff.mp inGuards).1 named
        (atoms guard inGuards)
  have discriminator : request.discriminator.WellBuilt := by
    apply Condition.wellBuilt_alternatives
    · obtain ⟨guard, member⟩ := List.exists_mem_of_ne_nil _ guarded
      have listed := mem_platformNames_iff.mpr ⟨guard, member, rfl⟩
      simpa using List.ne_nil_of_mem listed
    · intro term member
      obtain ⟨name, inNames, rfl⟩ := List.mem_map.mp member
      obtain ⟨guard, inGuards, rfl⟩ := mem_platformNames_iff.mp inNames
      exact Guard.atomText_event guard (mem_guards_iff.mp inGuards).1
  unfold built
  split
  · refine ⟨⟨discriminator, commands⟩, discriminator, ?_⟩
    simp [isCall_discriminator]
  · exact commands

private theorem closings_suffix_parenthesised
    (before : String)
    {inner : String}
    (ended : [')'] <:+ inner.toList) :
    [')', ')'] <:+ (before ++ inner ++ ")").toList := by
  obtain ⟨front, whole⟩ := ended
  exact ⟨before.toList ++ front, by simp [← whole]⟩

private theorem closing_suffix_parenthesised (before : String) :
    [')'] <:+ (before ++ ")").toList :=
  ⟨before.toList, by simp⟩

theorem closing_suffix_render_mentions
    {names : List String}
    (named : names ≠ [])
    (guard : Guard) :
    [')'] <:+ (Guard.mentions names guard.body).render.toList := by
  rcases List.eq_nil_or_concat names with none | ⟨earlier, last, rfl⟩
  · exact (named none).elim
  · have ended : [')'] <:+ (guard.mention last).render.toList := by
      rw [Guard.mention, Condition.render]
      exact closing_suffix_parenthesised _
    rw [Guard.mentions_eq, List.concat_eq_append, List.map_append,
      List.map_singleton]
    exact ended.trans (Condition.suffix_render_alternatives _ _)

/-- The text of a guard ends in two closing parentheses. -/
theorem closings_suffix_render_condition
    {names : List String}
    (named : names ≠ [])
    (guard : Guard) :
    [')', ')'] <:+ (guard.condition names).render.toList := by
  have mentions := closing_suffix_render_mentions named guard
  rcases guard with ⟨identifier, body, _ | thread⟩
  · rw [Guard.condition, Condition.render]
    exact closings_suffix_parenthesised _ mentions
  · rw [Guard.condition, Condition.render, Condition.render]
    exact closings_suffix_parenthesised _ (closing_suffix_parenthesised _)

/-- Every gate ends in two closing parentheses. -/
theorem closings_suffix_render_built
    {request : GateRequest}
    (named : request.names ≠ [])
    (guarded : request.guards ≠ []) :
    [')', ')'] <:+ request.built.render.toList := by
  unfold built
  split
  · have negated :
        (Condition.not request.discriminator).render =
          "!(" ++ request.discriminator.render ++ ")" := by
      simp [Condition.render, isCall_discriminator]
    rw [Condition.render, negated]
    exact closings_suffix_parenthesised _ (closing_suffix_parenthesised _)
  · rcases List.eq_nil_or_concat request.guards with none | ⟨earlier, last, shape⟩
    · exact (guarded none).elim
    · rw [commands, shape, List.concat_eq_append, List.map_append,
        List.map_singleton]
      exact (closings_suffix_render_condition named last).trans
        (Condition.suffix_render_alternatives _ _)

/-! ## What a mention decides -/

/-- The truth values that deny every mention and affirm every other atom of a gate. -/
def unmentioned (text : String) : Bool :=
  text.toList.head? != some 'c'

/-- The same, but one text is affirmed. -/
def mentionedOnly (mentioned text : String) : Bool :=
  unmentioned text || text == mentioned

theorem unmentioned_mention
    (guard : Guard)
    (name : String) :
    unmentioned (guard.mention name).render = false := by
  rw [unmentioned, Guard.head?_render_mention]
  rfl

theorem unmentioned_event (guard : Guard) :
    unmentioned guard.event.render = true :=
  bne_iff_ne.mpr (Guard.head?_render_event guard)

theorem unmentioned_thread (thread : Thread) :
    unmentioned (Guard.Thread.condition thread).render = true :=
  bne_iff_ne.mpr (Guard.head?_render_thread thread)

/-- Without any mention the gate is closed, for its events have happened. -/
theorem truth_built_unmentioned
    {request : GateRequest}
    (guarded : request.guards ≠ []) :
    request.built.truth unmentioned = false := by
  have noGuard :
      ∀ guard ∈ request.guards,
        (guard.condition request.names).evaluate
            (fun atom => unmentioned atom.render) =
          false := by
    intro guard _
    simp [Guard.evaluate_condition, unmentioned_mention]
  obtain ⟨guard, member⟩ := List.exists_mem_of_ne_nil _ guarded
  have happened :
      request.guards.any (fun guard => unmentioned guard.event.render) = true :=
    List.any_eq_true.mpr ⟨guard, member, unmentioned_event guard⟩
  rw [Condition.truth, evaluate_built, happened,
    List.any_eq_false.mpr (by simpa using noGuard)]
  simp

/-- One mention opens the gate. -/
theorem truth_built_mentionedOnly
    {request : GateRequest}
    {guard : Guard}
    {name : String}
    (enabled : guard ∈ request.guards)
    (named : name ∈ request.names) :
    request.built.truth (mentionedOnly (guard.mention name).render) = true := by
  have holds :
      (guard.condition request.names).evaluate
          (fun atom => mentionedOnly (guard.mention name).render atom.render) =
        true := by
    have mentioned :
        request.names.any
            (fun other =>
              mentionedOnly (guard.mention name).render
                (guard.mention other).render) =
          true :=
      List.any_eq_true.mpr ⟨name, named, by simp [mentionedOnly]⟩
    rw [Guard.evaluate_condition, mentioned]
    simp [mentionedOnly, unmentioned_event, unmentioned_thread]
  rw [Condition.truth, evaluate_built,
    List.any_eq_true.mpr ⟨guard, enabled, holds⟩]
  rfl

/-- A tree with the meaning of a gate has each mention of the gate among its leaves. -/
theorem exists_leaf_of_same_truth
    {request : GateRequest}
    {read : Condition}
    (plain : read.Plain)
    (same :
      ∀ assignment, read.truth assignment = request.built.truth assignment)
    {guard : Guard}
    {name : String}
    (enabled : guard ∈ request.guards)
    (named : name ∈ request.names) :
    ∃ leaf ∈ read.leaves, leaf.text = (guard.mention name).render := by
  by_contra absent
  have agree :
      ∀ leaf ∈ read.leaves,
        unmentioned leaf.text =
          mentionedOnly (guard.mention name).render leaf.text := by
    intro leaf member
    have different : leaf.text ≠ (guard.mention name).render :=
      fun equal => absent ⟨leaf, member, equal⟩
    simp [mentionedOnly, different]
  have unchanged := plain.truth_congr agree
  rw [same, same, truth_built_unmentioned (List.ne_nil_of_mem enabled),
    truth_built_mentionedOnly enabled named] at unchanged
  cases unchanged

/-- The text of a gate does not end in a mention: a parenthesis closes behind it. -/
private theorem not_mention_at_end
    {guard : Guard}
    {name : String}
    {text before spaces : List Char}
    (ends : [')', ')'] <:+ text)
    (blank : ∀ c ∈ spaces, Text.isSpace c = true)
    (whole : text = before ++ ((guard.mention name).render.toList ++ spaces)) :
    False := by
  obtain ⟨front, rfl⟩ := ends
  have reversed := congrArg List.reverse whole
  rw [Guard.toList_render_mention] at reversed
  simp only [List.reverse_append] at reversed
  cases letters : spaces.reverse with
  | nil =>
      rw [letters] at reversed
      simp at reversed
  | cons last others =>
      have space := blank last (List.mem_reverse.mp (by simp [letters]))
      rw [letters] at reversed
      obtain rfl : ')' = last := by
        simpa using (List.cons.inj reversed).1
      simp [Text.isSpace] at space

/-- A mention that is a leaf of the tree read from a gate is one closed literal. -/
theorem atomText_of_leaf
    {request : GateRequest}
    {read : Condition}
    (named : request.names ≠ [])
    (guarded : request.guards ≠ [])
    (accepted : Condition.parse request.built.render = .ok read)
    {guard : Guard}
    {name : String}
    {leaf : Leaf}
    (member : leaf ∈ read.leaves)
    (isMention : leaf.text = (guard.mention name).render) :
    AtomText (guard.mention name).render := by
  rw [(Condition.parse_eq_ok_iff.mp accepted).leaves_eq] at member
  obtain ⟨token, inTokens, isLeaf⟩ := List.mem_filterMap.mp member
  obtain ⟨isLiteral, rfl⟩ : token.kind = .literal ∧ leaf = ⟨token.text, ""⟩ := by
    simpa [Grammar.literalLeaf?, eq_comm] using isLeaf
  replace isMention : token.text = (guard.mention name).render := isMention
  rw [← isMention]
  constructor
  · rw [Token.scan_eq, Token.isLiteral_of_mem_scanFrom inTokens isLiteral]
    rfl
  · rcases Token.closed_or_last_of_mem_scanFrom inTokens isLiteral with
      closed | ⟨_, before, spaces, _, whole, blank⟩
    · exact closed
    · -- An open literal would reach the end of the gate, which no mention does.
      rw [isMention] at whole
      exact
        (not_mention_at_end (closings_suffix_render_built named guarded)
          blank whole).elim

/-- The text of a tree is accepted and keeps its truth value under every assignment. -/
def KeptInText (tree : Condition) : Prop :=
  ∃ read,
    Condition.parse tree.render = .ok read ∧
      ∀ assignment, read.truth assignment = tree.truth assignment

/-- A gate whose mentions are closed literals is read back with its meaning. -/
theorem keptInText_of_atoms
    {request : GateRequest}
    (named : request.names ≠ [])
    (guarded : request.guards ≠ [])
    (atoms :
      ∀ guard ∈ request.guards,
        ∀ name ∈ request.names,
          AtomText (guard.mention name).render) :
    KeptInText request.built := by
  have wellBuilt := wellBuilt_built named guarded atoms
  exact ⟨_, Condition.parse_render_of_wellBuilt wellBuilt,
    (Condition.readsAs_of_wellBuilt _ wellBuilt).truth_readBack⟩

/--
The text of a gate is accepted and has the gate's truth value under every assignment
exactly when each mention in it is scanned as one closed literal.  Names without an
apostrophe and a backslash are always of this kind.
-/
theorem parse_render_gate_iff_atoms
    {request : GateRequest}
    {tree : Condition}
    (accepted : request.gate = .ok tree) :
    (KeptInText tree ↔
        ∀ guard,
          request.Resolves guard →
          ∀ name ∈ request.names,
            AtomText
              (Condition.render
                (.contains (.property guard.body) (.string ("/" ++ name))))) ∧
      ((∀ name ∈ request.names, '\x27' ∉ name.toList ∧ '\\' ∉ name.toList) →
        KeptInText tree) := by
  obtain ⟨named, guarded, rfl⟩ := gate_eq_ok_iff.mp accepted
  refine ⟨⟨?_, ?_⟩, ?_⟩
  · rintro ⟨read, reads, same⟩ guard resolved name inNames
    have enabled := mem_guards_iff.mpr resolved
    obtain ⟨leaf, member, isMention⟩ :=
      exists_leaf_of_same_truth (Condition.plain_of_parse reads) same
        enabled inNames
    exact atomText_of_leaf named guarded reads member isMention
  · intro atoms
    exact keptInText_of_atoms named guarded
      (fun guard enabled => atoms guard (mem_guards_iff.mp enabled))
  · intro plain
    apply keptInText_of_atoms named guarded
    intro guard enabled name inNames
    obtain ⟨noApostrophe, noBackslash⟩ := plain name inNames
    apply Guard.atomText_mention_of_enclosed (mem_guards_iff.mp enabled).1
    exact Guard.enclosed_of_plain (by simpa using noApostrophe)
      (by simpa using noBackslash)

/-- An escaped apostrophe, an operator and a parenthesis stay inside their quotation. -/
theorem parse_render_gate_iff_atoms_of_escaped :
    ∃ tree,
      gate ⟨["don\\'t && (stop"], ["issues", "issue_comment"], true, Event.table⟩ =
          .ok tree ∧
        KeptInText tree := by
  have accepted :
      gate ⟨["don\\'t && (stop"], ["issues", "issue_comment"], true, Event.table⟩ =
        .ok _ :=
    gate_eq_ok_iff.mpr ⟨by decide, by decide +kernel, rfl⟩
  refine ⟨_, accepted, (parse_render_gate_iff_atoms accepted).1.mpr ?_⟩
  intro guard resolved name inNames
  obtain rfl : name = "don\\'t && (stop" := by
    simpa using inNames
  exact Guard.atomText_mention_of_enclosed resolved.1
    ⟨by decide +kernel, by decide +kernel⟩

/-- The gate for a name that ends its quotation. -/
def injectedGate : Condition :=
  .and (.eventIs "issues")
    (.contains (.property "github.event.issue.body")
      (.string "/x')) || always() || (contains('y"))

/--
A name that ends its quotation adds an alternative to the gate: the text that is read
holds whenever that alternative does, on any event and without any command.
-/
theorem parse_render_gate_of_injected_alternative :
    ∃ tree read,
      gate
            ⟨["x')) || always() || (contains('y"], ["issues"], false,
              Event.table⟩ =
          .ok tree ∧
        Condition.parse tree.render = .ok read ∧
        tree.truth (· == "always()") = false ∧
        read.truth (· == "always()") = true := by
  have accepted :
      gate
          ⟨["x')) || always() || (contains('y"], ["issues"], false, Event.table⟩ =
        .ok injectedGate := by
    rfl
  have scanned :
      Token.body injectedGate.render =
        [⟨.leftParen, "(", 0⟩, ⟨.literal, "github.event_name == 'issues'", 1⟩,
          ⟨.rightParen, ")", 30⟩, ⟨.and, "&&", 32⟩, ⟨.leftParen, "(", 35⟩,
          ⟨.literal, "contains(github.event.issue.body, '/x')", 36⟩,
          ⟨.rightParen, ")", 75⟩, ⟨.or, "||", 77⟩, ⟨.literal, "always()", 80⟩,
          ⟨.or, "||", 89⟩, ⟨.leftParen, "(", 92⟩,
          ⟨.literal, "contains('y')", 93⟩, ⟨.rightParen, ")", 106⟩] := by
    decide +kernel
  have reads :
      Condition.parse injectedGate.render =
        .ok
          (.or
            (.or
              (.and (.leaf "github.event_name == 'issues'")
                (.leaf "contains(github.event.issue.body, '/x')"))
              (.leaf "always()"))
            (.leaf "contains('y')")) :=
    Condition.parse_eq_ok_of_run scanned rfl
  exact ⟨_, _, accepted, reads, by decide +kernel, by decide +kernel⟩

end GateRequest

end WorkflowConditions
