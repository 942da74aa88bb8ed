import WorkflowConditions.Proofs.ListFacts
import WorkflowConditions.Proofs.Trigger.GateMeaning

namespace WorkflowConditions

/-!
# Gates and the set of enabled events

A request names its events in a list, in any order, some of them twice and some
unknown.  The gate depends on the set of identifiers that the list enables.  Its
guards stand in the order of the table of guards, so they are the same for every list;
the terms of its discriminator follow the list, but each platform event has one term.
-/

namespace Condition

theorem eventIs_injective
    {first second : String}
    (same : eventIs first = eventIs second) :
    first = second := by
  simpa [eventIs] using same

end Condition

/-- Terms for the platform events of some identifiers: each of them, once. -/
structure Condition.TellEvents
    (enabled : String → Prop)
    (terms : List Condition) :
    Prop where
  distinct : terms.Nodup
  exactly :
    ∀ term,
      term ∈ terms ↔
        ∃ identifier,
          enabled identifier ∧ term = .eventIs (Event.platformName identifier)

/-- Two lists of terms for the same platform events differ in their order only. -/
theorem Condition.TellEvents.perm
    {firstEnabled secondEnabled : String → Prop}
    {firstTerms secondTerms : List Condition}
    (first : TellEvents firstEnabled firstTerms)
    (second : TellEvents secondEnabled secondTerms)
    (same : ∀ identifier, firstEnabled identifier ↔ secondEnabled identifier) :
    firstTerms.Perm secondTerms := by
  rw [List.perm_ext_iff_of_nodup first.distinct second.distinct]
  intro term
  rw [first.exactly, second.exactly]
  simp only [same]

namespace GateRequest

/-- Guards follow their own table, whatever the order of the identifiers is. -/
theorem guards_eq_of_same_enabled
    {first second : GateRequest}
    (same :
      ∀ identifier,
        Event.Enabled first.table first.identifiers identifier ↔
          Event.Enabled second.table second.identifiers identifier) :
    first.guards = second.guards := by
  apply List.filter_congr
  intro guard _
  rw [Bool.eq_iff_iff, List.contains_iff_mem, List.contains_iff_mem,
    mem_guarded_iff, mem_guarded_iff]
  exact same guard.identifier

theorem commands_eq_of_same_enabled
    {first second : GateRequest}
    (sameNames : first.names = second.names)
    (same :
      ∀ identifier,
        Event.Enabled first.table first.identifiers identifier ↔
          Event.Enabled second.table second.identifiers identifier) :
    first.commands = second.commands := by
  rw [commands, commands, guards_eq_of_same_enabled same, sameNames]

/-- The discriminator has one term for every platform event of an enabled identifier. -/
theorem tellEvents_discriminator (request : GateRequest) :
    Condition.TellEvents (Event.Enabled request.table request.identifiers)
      (request.platformNames.map Condition.eventIs) := by
  constructor
  · have distinct : request.platformNames.Nodup := ListFacts.nodup_eraseDups _
    rw [List.Nodup, List.pairwise_map]
    refine distinct.imp ?_
    intro first second different same
    exact different (Condition.eventIs_injective same)
  · intro term
    simp only [platformNames, List.mem_map, List.mem_eraseDups, mem_guarded_iff]
    constructor
    · rintro ⟨_, ⟨identifier, isEnabled, rfl⟩, rfl⟩
      exact ⟨identifier, isEnabled, rfl⟩
    · rintro ⟨identifier, isEnabled, rfl⟩
      exact ⟨_, ⟨identifier, isEnabled, rfl⟩, rfl⟩

/--
Lists of identifiers that enable the same events, at least one, have the same gate
when there are no other triggers.  Beside other triggers their gates have the same
guards, and their discriminators the same terms up to the order: one for each platform
event of an enabled identifier.
-/
theorem gate_depends_on_enabled_set
    {names : List String}
    {table : List Event}
    {first second : List String}
    (named : names ≠ [])
    (same :
      ∀ identifier,
        Event.Enabled table first identifier ↔ Event.Enabled table second identifier)
    (nonempty : ∃ identifier, Event.Enabled table first identifier) :
    ∃ commands firstTerms secondTerms,
      gate ⟨names, first, false, table⟩ = .ok commands ∧
        gate ⟨names, second, false, table⟩ = .ok commands ∧
        gate ⟨names, first, true, table⟩ =
          .ok
            (.or (.and (.alternatives false firstTerms) commands)
              (.not (.alternatives false firstTerms))) ∧
        gate ⟨names, second, true, table⟩ =
          .ok
            (.or (.and (.alternatives false secondTerms) commands)
              (.not (.alternatives false secondTerms))) ∧
        firstTerms.Perm secondTerms ∧
        Condition.TellEvents (Event.Enabled table first) firstTerms ∧
        Condition.TellEvents (Event.Enabled table second) secondTerms := by
  obtain ⟨identifier, firstEnabled⟩ := nonempty
  have secondEnabled := (same identifier).mp firstEnabled
  have accepted
      {identifiers : List String}
      (isEnabled : Event.Enabled table identifiers identifier)
      (otherTriggers : Bool) :
      gate ⟨names, identifiers, otherTriggers, table⟩ =
        .ok (built ⟨names, identifiers, otherTriggers, table⟩) :=
    gate_eq_ok_iff.mpr ⟨named, guards_ne_nil_of_enabled isEnabled, rfl⟩
  -- The guards do not depend on whether there are other triggers.
  have sameCommands
      (otherTriggers : Bool) :
      commands ⟨names, second, otherTriggers, table⟩ =
        commands ⟨names, first, false, table⟩ :=
    commands_eq_of_same_enabled rfl (fun other => (same other).symm)
  have firstTells := tellEvents_discriminator ⟨names, first, true, table⟩
  have secondTells := tellEvents_discriminator ⟨names, second, true, table⟩
  refine ⟨_, _, _, accepted firstEnabled false, ?_, accepted firstEnabled true, ?_,
    firstTells.perm secondTells same, firstTells, secondTells⟩
  · rw [accepted secondEnabled false]
    exact congrArg Except.ok (sameCommands false)
  · have beside :
        built ⟨names, second, true, table⟩ =
          .or
            (.and (discriminator ⟨names, second, true, table⟩)
              (commands ⟨names, second, true, table⟩))
            (.not (discriminator ⟨names, second, true, table⟩)) :=
      rfl
    rw [accepted secondEnabled true, beside, sameCommands true]
    rfl

/-- The list may be shuffled, repeat identifiers and name unknown ones. -/
theorem gate_depends_on_enabled_set_of_shuffled :
    ∃ commands firstTerms secondTerms,
      gate
            ⟨["deploy"], ["pull_request_comment", "issues", "issue_comment"], true,
              Event.table⟩ =
          .ok
            (.or (.and (.alternatives false firstTerms) commands)
              (.not (.alternatives false firstTerms))) ∧
        gate
            ⟨["deploy"],
              ["issues", "push", "issue_comment", "issues", "pull_request_comment"], true,
              Event.table⟩ =
          .ok
            (.or (.and (.alternatives false secondTerms) commands)
              (.not (.alternatives false secondTerms))) ∧
        firstTerms.Perm secondTerms := by
  have same
      (identifier : String) :
      Event.Enabled Event.table ["pull_request_comment", "issues", "issue_comment"]
          identifier ↔
        Event.Enabled Event.table
          ["issues", "push", "issue_comment", "issues", "pull_request_comment"]
          identifier := by
    constructor
    · intro isEnabled
      have asked := isEnabled.1.resolve_left (by simp)
      simp only [List.mem_cons, List.not_mem_nil, or_false] at asked
      revert isEnabled
      rcases asked with rfl | rfl | rfl <;>
        decide +kernel
    · intro isEnabled
      have asked := isEnabled.1.resolve_left (by simp)
      simp only [List.mem_cons, List.not_mem_nil, or_false] at asked
      revert isEnabled
      rcases asked with rfl | rfl | rfl | rfl | rfl <;>
        decide +kernel
  obtain ⟨commands, firstTerms, secondTerms, _, _, first, second, permuted, _, _⟩ :=
    @gate_depends_on_enabled_set ["deploy"] Event.table _ _ (by simp) same
      ⟨"issues", by decide +kernel⟩
  exact ⟨commands, firstTerms, secondTerms, first, second, permuted⟩

end GateRequest

end WorkflowConditions
