import WorkflowConditions.Proofs.Condition.Tree
import WorkflowConditions.Trigger.Command

namespace WorkflowConditions

/-!
# What a gate admits

A gate has one guard for every enabled event that is guarded.  Whatever truth
values its atoms have, it holds exactly when the guard of such an event holds, or,
beside other triggers, when none of the guarded events has happened.  The
discriminator and the guards speak of the same platform events, so no guarded event
slips past its guard and no other trigger is held back.
-/

namespace Condition

/-- A single alternative stands for itself, and none at all is false. -/
theorem evaluate_alternatives
    (meaning : Condition → Bool)
    (multiline : Bool)
    (terms : List Condition) :
    (alternatives multiline terms).evaluate meaning =
      terms.any (evaluate meaning) := by
  match terms with
  | [] =>
      rfl
  | [term] =>
      simp [alternatives]
  | first :: second :: others =>
      simp only [alternatives, evaluate, evaluateAny_eq_any]

end Condition

namespace Guard

/-- The platform event of a guard has happened. -/
def event (guard : Guard) : Condition :=
  .eventIs (Event.platformName guard.identifier)

/-- The text of a guard's event mentions a command. -/
def mention (guard : Guard) (name : String) : Condition :=
  .contains (.property guard.body) (.string ("/" ++ name))

theorem mentions_eq
    (guard : Guard)
    (names : List String) :
    mentions names guard.body = .alternatives false (names.map guard.mention) :=
  rfl

/-- A guard holds when its event mentions some command in the right kind of thread. -/
theorem evaluate_condition
    (meaning : Condition → Bool)
    (guard : Guard)
    (names : List String) :
    (guard.condition names).evaluate meaning =
      (meaning guard.event &&
        (names.any (fun name => meaning (guard.mention name)) &&
          guard.thread.all (fun thread => meaning (Thread.condition thread)))) := by
  have event :
      (Condition.eventIs (Event.platformName guard.identifier)).evaluate meaning =
        meaning guard.event :=
    rfl
  have mentioned :
      (mentions names guard.body).evaluate meaning =
        names.any (fun name => meaning (guard.mention name)) := by
    rw [mentions_eq, Condition.evaluate_alternatives, List.any_map]
    rfl
  have admitted
      (thread : Thread) :
      (Thread.condition thread).evaluate meaning =
        meaning (Thread.condition thread) := by
    cases thread <;>
      rfl
  rcases guard with ⟨identifier, body, _ | thread⟩
  · simp [condition, Condition.evaluate, event, mentioned]
  · simp [condition, Condition.evaluate, event, mentioned, admitted]

/-- Only the two comments of the shared platform event depend on the kind of thread. -/
theorem thread_all_iff
    {guard : Guard}
    (listed : guard ∈ table)
    (admits : Thread → Bool) :
    guard.thread.all admits = true ↔
      (guard.identifier = Event.issueComment → admits .issue = true) ∧
        (guard.identifier = Event.pullRequestComment →
          admits .pullRequest = true) := by
  simp only [table, List.mem_cons, List.not_mem_nil, or_false] at listed
  rcases listed with rfl | rfl | rfl | rfl | rfl | rfl | rfl <;>
    simp [Event.issueComment, Event.pullRequestComment]

end Guard

namespace Event

/-- An identifier that a list asks for, that the table knows and that has a guard. -/
def Enabled
    (table : List Event)
    (identifiers : List String)
    (identifier : String) :
    Prop :=
  (identifiers = [] ∨ identifier ∈ identifiers) ∧
    (∃ event ∈ table, event.name = identifier) ∧
    Guard.covers identifier = true

instance
    (table : List Event)
    (identifiers : List String)
    (identifier : String) :
    Decidable (Enabled table identifiers identifier) :=
  inferInstanceAs (Decidable (_ ∧ _ ∧ _))

/-- A selection holds the events of the table that are asked for. -/
theorem exists_mem_select_iff
    {table : List Event}
    {identifiers : List String}
    {identifier : String} :
    (∃ event ∈ select table identifiers, event.name = identifier) ↔
      (identifiers = [] ∨ identifier ∈ identifiers) ∧
        ∃ event ∈ table, event.name = identifier := by
  by_cases all : identifiers = []
  · simp [select, all]
  · have selected : select table identifiers = identifiers.filterMap (find? table) := by
      simp [select, all]
    rw [selected]
    constructor
    · rintro ⟨event, member, named⟩
      obtain ⟨asked, inList, found⟩ := List.mem_filterMap.mp member
      have sameName : event.name = asked := by
        simpa using List.find?_some found
      obtain rfl : asked = identifier := sameName.symm.trans named
      exact ⟨.inr inList, event, List.mem_of_find?_eq_some found, named⟩
    · rintro ⟨asked, event, known, named⟩
      have isFound : (find? table identifier).isSome = true := by
        rw [find?, List.find?_isSome]
        exact ⟨event, known, by simp [named]⟩
      obtain ⟨first, found⟩ := Option.isSome_iff_exists.mp isFound
      refine ⟨first, ?_, by simpa using List.find?_some found⟩
      exact List.mem_filterMap.mpr ⟨identifier, asked.resolve_left all, found⟩

end Event

namespace GateRequest

/-- The guard belongs to an event that the request enables. -/
def Resolves (request : GateRequest) (guard : Guard) : Prop :=
  guard ∈ Guard.table ∧
    Event.Enabled request.table request.identifiers guard.identifier

/-- An identifier is enabled exactly when it has a guard that the request resolves to. -/
theorem exists_resolves_iff
    {request : GateRequest}
    {identifier : String} :
    (∃ guard, request.Resolves guard ∧ guard.identifier = identifier) ↔
      Event.Enabled request.table request.identifiers identifier := by
  constructor
  · rintro ⟨guard, resolved, rfl⟩
    exact resolved.2
  · intro isEnabled
    have covered := isEnabled.2.2
    simp only [Guard.covers, List.any_eq_true, beq_iff_eq] at covered
    obtain ⟨guard, listed, rfl⟩ := covered
    exact ⟨guard, ⟨listed, isEnabled⟩, rfl⟩

/-- The guarded identifiers of a request are those that it enables. -/
theorem mem_guarded_iff
    {request : GateRequest}
    {identifier : String} :
    identifier ∈ request.guarded ↔
      Event.Enabled request.table request.identifiers identifier := by
  rw [guarded, enabled, List.mem_filter, List.mem_map, Event.exists_mem_select_iff,
    and_assoc]
  rfl

/-- The guards of a request are those of its enabled identifiers. -/
theorem mem_guards_iff
    {request : GateRequest}
    {guard : Guard} :
    guard ∈ request.guards ↔ request.Resolves guard := by
  rw [guards, List.mem_filter, List.contains_iff_mem, mem_guarded_iff]
  rfl

/-- An enabled identifier has a guard. -/
theorem guards_ne_nil_of_enabled
    {request : GateRequest}
    {identifier : String}
    (isEnabled : Event.Enabled request.table request.identifiers identifier) :
    request.guards ≠ [] := by
  obtain ⟨guard, resolved, _⟩ := exists_resolves_iff.mpr isEnabled
  exact List.ne_nil_of_mem (mem_guards_iff.mpr resolved)

/-- The discriminator names the platform events of the guards. -/
theorem mem_platformNames_iff
    {request : GateRequest}
    {name : String} :
    name ∈ request.platformNames ↔
      ∃ guard ∈ request.guards, Event.platformName guard.identifier = name := by
  simp only [platformNames, List.mem_eraseDups, List.mem_map, mem_guarded_iff,
    mem_guards_iff, ← exists_resolves_iff]
  constructor
  · rintro ⟨identifier, ⟨guard, resolved, rfl⟩, named⟩
    exact ⟨guard, resolved, named⟩
  · rintro ⟨guard, resolved, named⟩
    exact ⟨guard.identifier, ⟨guard, resolved, rfl⟩, named⟩

/-- The guards of a request as one condition. -/
def commands (request : GateRequest) : Condition :=
  .alternatives false (request.guards.map (·.condition request.names))

/-- A gate that is built, by whether the workflow has other triggers. -/
def built (request : GateRequest) : Condition :=
  if request.otherTriggers then
    .or (.and request.discriminator request.commands) (.not request.discriminator)
  else request.commands

/-- A gate is built exactly when there are names and guards for it. -/
theorem gate_eq_ok_iff
    {request : GateRequest}
    {tree : Condition} :
    request.gate = .ok tree ↔
      request.names ≠ [] ∧ request.guards ≠ [] ∧ tree = request.built := by
  by_cases noNames : request.names = []
  · simp [gate, noNames]
  · by_cases noGuards : request.guards = []
    · simp [gate, noNames, noGuards]
    · have accepted : request.gate = .ok request.built := by
        cases other : request.otherTriggers <;>
          simp [gate, built, commands, noNames, noGuards, other]
      simp [accepted, noNames, noGuards, eq_comm]

/-- There is no gate exactly when there is no name or no guard. -/
theorem gate_eq_error_iff (request : GateRequest) :
    (∃ error, request.gate = .error error) ↔
      request.names = [] ∨ request.guards = [] := by
  by_cases noNames : request.names = []
  · simp [gate, noNames]
  · by_cases noGuards : request.guards = []
    · simp [gate, noNames, noGuards]
    · have accepted : request.gate = .ok request.built :=
        gate_eq_ok_iff.mpr ⟨noNames, noGuards, rfl⟩
      simp [accepted, noNames, noGuards]

theorem evaluate_commands
    (meaning : Condition → Bool)
    (request : GateRequest) :
    request.commands.evaluate meaning =
      request.guards.any
        (fun guard => (guard.condition request.names).evaluate meaning) := by
  rw [commands, Condition.evaluate_alternatives, List.any_map]
  rfl

/-- The discriminator holds when the event of some guard has happened. -/
theorem evaluate_discriminator
    (meaning : Condition → Bool)
    (request : GateRequest) :
    request.discriminator.evaluate meaning =
      request.guards.any (fun guard => meaning guard.event) := by
  rw [discriminator, Condition.evaluate_alternatives, List.any_map,
    Bool.eq_iff_iff, List.any_eq_true, List.any_eq_true]
  constructor
  · rintro ⟨name, listed, happened⟩
    obtain ⟨guard, member, rfl⟩ := mem_platformNames_iff.mp listed
    exact ⟨guard, member, happened⟩
  · rintro ⟨guard, member, happened⟩
    exact ⟨_, mem_platformNames_iff.mpr ⟨guard, member, rfl⟩, happened⟩

/--
A gate holds when some guard does, or when other triggers are allowed and none of
the guarded events has happened.
-/
theorem evaluate_built
    (meaning : Condition → Bool)
    (request : GateRequest) :
    request.built.evaluate meaning =
      (request.guards.any
          (fun guard => (guard.condition request.names).evaluate meaning) ||
        (request.otherTriggers &&
          !request.guards.any (fun guard => meaning guard.event))) := by
  -- A guard that holds has its event, so the discriminator only matters when none does.
  have guarded :
      request.guards.any
          (fun guard => (guard.condition request.names).evaluate meaning) = true →
        request.guards.any (fun guard => meaning guard.event) = true := by
    simp only [List.any_eq_true]
    rintro ⟨guard, member, holds⟩
    rw [Guard.evaluate_condition, Bool.and_eq_true] at holds
    exact ⟨guard, member, holds.1⟩
  cases other : request.otherTriggers with
  | false =>
      simp [built, other, evaluate_commands]
  | true =>
      simp only [built, other, if_true, Condition.evaluate, evaluate_commands,
        evaluate_discriminator, Bool.true_and]
      revert guarded
      generalize
        request.guards.any
          (fun guard => (guard.condition request.names).evaluate meaning) = holds
      generalize request.guards.any (fun guard => meaning guard.event) = happened
      cases holds <;> cases happened <;>
        simp

/--
A request is refused exactly when it has no name or resolves to no guarded event.
Otherwise, for all truth values of the atoms in which a thread either belongs to a
pull request or does not, its gate holds exactly when

* the platform event of a resolved identifier has happened, its text mentions a
  command, and the thread is of the right kind, or
* the workflow has other triggers and no event of a resolved identifier has happened.
-/
theorem gate_holds_exactly (request : GateRequest) :
    ((∃ error, request.gate = .error error) ↔
        request.names = [] ∨ ∀ guard, ¬request.Resolves guard) ∧
      ∀ tree,
        request.gate = .ok tree →
        ∀ meaning : Condition → Bool,
          meaning (.compare .notEqual (.property Guard.pullRequestPath) .nullValue) =
              !meaning (.compare .equal (.property Guard.pullRequestPath) .nullValue) →
          (tree.evaluate meaning = true ↔
            (∃ guard,
              request.Resolves guard ∧
                meaning (.eventIs (Event.platformName guard.identifier)) = true ∧
                (∃ name ∈ request.names,
                  meaning
                    (.contains (.property guard.body) (.string ("/" ++ name))) =
                      true) ∧
                (guard.identifier = Event.issueComment →
                  meaning
                    (.compare .equal (.property Guard.pullRequestPath) .nullValue) =
                      true) ∧
                (guard.identifier = Event.pullRequestComment →
                  meaning
                    (.compare .equal (.property Guard.pullRequestPath) .nullValue) =
                      false)) ∨
              (request.otherTriggers = true ∧
                ∀ guard,
                  request.Resolves guard →
                  meaning (.eventIs (Event.platformName guard.identifier)) =
                    false)) := by
  constructor
  · have unguarded :
        request.guards = [] ↔ ∀ guard, ¬request.Resolves guard := by
      simp only [List.eq_nil_iff_forall_not_mem, mem_guards_iff]
    rw [gate_eq_error_iff, unguarded]
  · intro tree accepted meaning exclusive
    obtain ⟨_, _, rfl⟩ := gate_eq_ok_iff.mp accepted
    rw [evaluate_built, Bool.or_eq_true, Bool.and_eq_true, List.any_eq_true]
    apply or_congr
    · apply exists_congr
      intro guard
      rw [mem_guards_iff]
      apply and_congr_right
      intro resolved
      rw [Guard.evaluate_condition, Bool.and_eq_true, Bool.and_eq_true,
        Guard.thread_all_iff resolved.1, List.any_eq_true]
      simp only [Guard.Thread.condition, exclusive, Bool.not_eq_true']
      rfl
    · simp only [Bool.not_eq_true', List.any_eq_false, mem_guards_iff,
        Bool.not_eq_true]
      rfl

/-- A comment on a pull request passes its gate under the name of an issue comment. -/
theorem gate_holds_exactly_of_pull_request_comment :
    ∃ tree,
      gate ⟨["deploy"], ["pull_request_comment"], true, Event.table⟩ = .ok tree ∧
        tree.evaluate
            (fun atom =>
              decide
                (atom.render ∈
                  ["github.event_name == 'issue_comment'",
                    "contains(github.event.comment.body, '/deploy')",
                    "github.event.issue.pull_request != null"])) =
          true := by
  have accepted :
      gate ⟨["deploy"], ["pull_request_comment"], true, Event.table⟩ = .ok _ :=
    gate_eq_ok_iff.mpr ⟨by decide, by decide +kernel, rfl⟩
  obtain ⟨_, holds⟩ :=
    gate_holds_exactly ⟨["deploy"], ["pull_request_comment"], true, Event.table⟩
  refine ⟨_, accepted, (holds _ accepted _ (by decide +kernel)).mpr (.inl ?_)⟩
  refine ⟨⟨Event.pullRequestComment, Guard.commentBody, some .pullRequest⟩, ?_, ?_, ?_⟩
  · exact mem_guards_iff.mp (by decide +kernel)
  · decide +kernel
  · exact ⟨⟨"deploy", by simp, by decide +kernel⟩, by decide, fun _ => by decide +kernel⟩

end GateRequest

end WorkflowConditions
