import WorkflowConditions.Proofs.Trigger.GateMeaning

namespace WorkflowConditions

/-!
# Subscriptions

A workflow subscribes to the platform events that deliver its comment events, and
its gate tells the same platform events from all others.  The two are computed in
different ways: a subscription puts the two kinds of thread comments together, and
the gate drops the platform names that it has seen.  They agree on every selection
of guarded events.
-/

namespace Event

/-- Both kinds of thread comments are among some events. -/
def HasBothThreads (events : List Event) : Prop :=
  (∃ event ∈ events, event.name = issueComment) ∧
    ∃ event ∈ events, event.name = pullRequestComment

/-- Either one unrestricted event stands for all thread comments, or each for itself. -/
theorem merge_cases (events : List Event) :
    (HasBothThreads events ∧
        merge events =
          events.filter (!·.isThreadComment) ++
            [{ name := issueComment, types := createdTypes }]) ∨
      (¬HasBothThreads events ∧ merge events = events.map asPlatformEvent) := by
  have decides :
      (events.any (·.name == issueComment) &&
          events.any (·.name == pullRequestComment)) = true ↔
        HasBothThreads events := by
    simp [HasBothThreads]
  by_cases both : HasBothThreads events
  · exact .inl ⟨both, if_pos (decides.mpr both)⟩
  · exact .inr ⟨both, if_neg (fun found => both (decides.mp found))⟩

/-! ## One event -/

theorem isThreadComment_iff {event : Event} :
    event.isThreadComment = true ↔
      event.name = issueComment ∨ event.name = pullRequestComment := by
  simp [isThreadComment]

/-- Both thread comments are one event of the platform. -/
theorem platformName_of_isThreadComment
    {event : Event}
    (comment : event.isThreadComment = true) :
    platformName event.name = issueComment :=
  if_pos (isThreadComment_iff.mp comment).symm

theorem platformName_of_not_isThreadComment
    {event : Event}
    (other : event.isThreadComment = false) :
    platformName event.name = event.name := by
  refine if_neg ?_
  intro comment
  rw [isThreadComment_iff.mpr comment.symm] at other
  cases other

/-- The platform has no event for comments on pull requests alone. -/
theorem platformName_ne_pullRequestComment (identifier : String) :
    platformName identifier ≠ pullRequestComment := by
  unfold platformName
  split
  case isTrue =>
    decide
  case isFalse other =>
    exact fun same => other (.inl same)

theorem asPlatformEvent_of_ne
    {event : Event}
    (other : event.name ≠ pullRequestComment) :
    event.asPlatformEvent = event :=
  if_neg other

/-- An event is subscribed to under the name of the platform event that delivers it. -/
theorem name_asPlatformEvent (event : Event) :
    event.asPlatformEvent.name = platformName event.name := by
  by_cases comment : event.name = pullRequestComment
  · simp [asPlatformEvent, platformName, comment]
  · rw [asPlatformEvent_of_ne comment]
    cases thread : event.isThreadComment with
    | false =>
        exact (platformName_of_not_isThreadComment thread).symm
    | true =>
        rw [platformName_of_isThreadComment thread]
        exact (isThreadComment_iff.mp thread).resolve_right comment

/-! ## Whole subscriptions -/

/-- A subscription names the platform events of the events it stands for. -/
theorem mem_map_name_merge
    {events : List Event}
    {name : String} :
    name ∈ (merge events).map (·.name) ↔
      ∃ event ∈ events, platformName event.name = name := by
  rcases merge_cases events with ⟨both, merged⟩ | ⟨_, merged⟩
  · rw [merged, List.map_append, List.mem_append]
    constructor
    · rintro (other | isComment)
      · obtain ⟨event, kept, rfl⟩ := List.mem_map.mp other
        obtain ⟨member, noComment⟩ := List.mem_filter.mp kept
        exact ⟨event, member,
          platformName_of_not_isThreadComment (by simpa using noComment)⟩
      · obtain ⟨event, member, named⟩ := both.1
        obtain rfl : name = issueComment := by simpa using isComment
        exact ⟨event, member,
          platformName_of_isThreadComment (isThreadComment_iff.mpr (.inl named))⟩
    · rintro ⟨event, member, rfl⟩
      cases thread : event.isThreadComment with
      | false =>
          left
          rw [platformName_of_not_isThreadComment thread]
          exact List.mem_map_of_mem
            (List.mem_filter.mpr ⟨member, by simp [thread]⟩)
      | true =>
          right
          simp [platformName_of_isThreadComment thread]
  · rw [merged, List.map_map, List.mem_map]
    simp only [Function.comp_apply, name_asPlatformEvent]

/-- A subscription names events of the platform only. -/
theorem name_ne_pullRequestComment_of_mem_merge
    {events : List Event}
    {event : Event}
    (member : event ∈ merge events) :
    event.name ≠ pullRequestComment := by
  obtain ⟨source, _, named⟩ :=
    mem_map_name_merge.mp (List.mem_map_of_mem member)
  rw [← named]
  exact platformName_ne_pullRequestComment source.name

/-- A subscription is left as it is. -/
theorem merge_merge (events : List Event) :
    merge (merge events) = merge events := by
  rcases merge_cases (merge events) with ⟨⟨_, event, member, named⟩, _⟩ | ⟨_, merged⟩
  · exact (name_ne_pullRequestComment_of_mem_merge member named).elim
  · rw [merged]
    refine (List.map_congr_left ?_).trans (List.map_id _)
    intro event member
    exact asPlatformEvent_of_ne (name_ne_pullRequestComment_of_mem_merge member)

theorem isThreadComment_asPlatformEvent (event : Event) :
    event.asPlatformEvent.isThreadComment = event.isThreadComment := by
  by_cases comment : event.name = pullRequestComment
  · simp [asPlatformEvent, isThreadComment, comment]
  · rw [asPlatformEvent_of_ne comment]

/-- All other events stay in the subscription unchanged and in their order. -/
theorem filter_merge (events : List Event) :
    (merge events).filter (!·.isThreadComment) =
      events.filter (!·.isThreadComment) := by
  rcases merge_cases events with ⟨_, merged⟩ | ⟨_, merged⟩
  · rw [merged, List.filter_append, List.filter_filter]
    simp [isThreadComment]
  · rw [merged, List.filter_map]
    have sameClass :
        (fun event : Event => !event.isThreadComment) ∘ asPlatformEvent =
          fun event => !event.isThreadComment := by
      funext event
      simp [isThreadComment_asPlatformEvent]
    rw [sameClass]
    refine (List.map_congr_left ?_).trans (List.map_id _)
    intro event kept
    have other := (List.mem_filter.mp kept).2
    apply asPlatformEvent_of_ne
    intro named
    rw [isThreadComment_iff.mpr (.inr named)] at other
    cases other

/-- Only the two kinds of thread comments share a platform event. -/
theorem name_eq_of_platformName_eq
    {events : List Event}
    {first second : Event}
    (separate : ¬HasBothThreads events)
    (firstMember : first ∈ events)
    (secondMember : second ∈ events)
    (same : platformName first.name = platformName second.name) :
    first.name = second.name := by
  cases firstThread : first.isThreadComment with
  | false =>
      rw [platformName_of_not_isThreadComment firstThread] at same
      cases secondThread : second.isThreadComment with
      | false =>
          rw [same, platformName_of_not_isThreadComment secondThread]
      | true =>
          rw [platformName_of_isThreadComment secondThread] at same
          rw [isThreadComment_iff.mpr (.inl same)] at firstThread
          cases firstThread
  | true =>
      rw [platformName_of_isThreadComment firstThread] at same
      cases secondThread : second.isThreadComment with
      | false =>
          rw [platformName_of_not_isThreadComment secondThread] at same
          rw [isThreadComment_iff.mpr (.inl same.symm)] at secondThread
          cases secondThread
      | true =>
          rcases isThreadComment_iff.mp firstThread with firstNamed | firstNamed <;>
            rcases isThreadComment_iff.mp secondThread with secondNamed | secondNamed
          · rw [firstNamed, secondNamed]
          · exact (separate
              ⟨⟨first, firstMember, firstNamed⟩, second, secondMember, secondNamed⟩).elim
          · exact (separate
              ⟨⟨second, secondMember, secondNamed⟩, first, firstMember, firstNamed⟩).elim
          · rw [firstNamed, secondNamed]

/-- Distinct events are subscribed to under distinct names. -/
theorem nodup_map_name_merge
    {events : List Event}
    (distinct : (events.map (·.name)).Nodup) :
    ((merge events).map (·.name)).Nodup := by
  rcases merge_cases events with ⟨_, merged⟩ | ⟨separate, merged⟩
  · rw [merged, List.map_append, List.nodup_append]
    refine ⟨distinct.sublist (List.filter_sublist.map _), by simp, ?_⟩
    intro name other last isComment
    obtain ⟨event, kept, rfl⟩ := List.mem_map.mp other
    obtain rfl : last = issueComment := by simpa using isComment
    intro named
    have noComment := (List.mem_filter.mp kept).2
    rw [isThreadComment_iff.mpr (.inl named)] at noComment
    cases noComment
  · rw [merged, List.map_map]
    rw [List.Nodup, List.pairwise_map] at distinct ⊢
    refine distinct.imp_of_mem ?_
    intro first second firstMember secondMember different
    simp only [Function.comp_apply, name_asPlatformEvent]
    exact fun same =>
      different (name_eq_of_platformName_eq separate firstMember secondMember same)

end Event

/-! ## The events that a gate compares -/

namespace Condition

mutual

/-- The names with which a condition compares that of the event. -/
def comparedEvents : Condition → List String
  | .compare .equal (.property path) (.string name) =>
      if path = eventNamePath then [name] else []
  | .and left right => left.comparedEvents ++ right.comparedEvents
  | .or left right => left.comparedEvents ++ right.comparedEvents
  | .not child => child.comparedEvents
  | .group child => child.comparedEvents
  | .anyOf terms _ => comparedEventsOfEach terms
  | _ => []

/-- The names with which several conditions compare that of the event. -/
def comparedEventsOfEach : List Condition → List String
  | [] => []
  | condition :: others => condition.comparedEvents ++ comparedEventsOfEach others

end

theorem comparedEventsOfEach_map_eventIs (names : List String) :
    comparedEventsOfEach (names.map eventIs) = names := by
  induction names with
  | nil =>
      rfl
  | cons name others inductionHypothesis =>
      rw [List.map_cons, comparedEventsOfEach, inductionHypothesis]
      rfl

/-- The discriminator compares the event with the names it was made of. -/
theorem comparedEvents_alternatives_eventIs
    (multiline : Bool)
    (names : List String) :
    (alternatives multiline (names.map eventIs)).comparedEvents = names := by
  match names with
  | [] =>
      rfl
  | [name] =>
      rfl
  | first :: second :: others =>
      exact comparedEventsOfEach_map_eventIs (first :: second :: others)

end Condition

namespace Event

/-- A selection takes events from the table. -/
theorem mem_of_mem_select
    {table : List Event}
    {identifiers : List String}
    {event : Event}
    (selected : event ∈ select table identifiers) :
    event ∈ table := by
  unfold select at selected
  split at selected
  case isTrue =>
    exact selected
  case isFalse =>
    obtain ⟨identifier, _, found⟩ := List.mem_filterMap.mp selected
    exact List.mem_of_find?_eq_some found

end Event

namespace GateRequest

/-- Where every event of the table has a guard, all enabled events are guarded. -/
theorem mem_platformNames_iff_of_covered
    {request : GateRequest}
    {name : String}
    (covered : ∀ event ∈ request.table, Guard.covers event.name = true) :
    name ∈ request.platformNames ↔
      ∃ event ∈ Event.select request.table request.identifiers,
        Event.platformName event.name = name := by
  have guarded : request.guarded = request.enabled := by
    refine List.filter_eq_self.mpr ?_
    intro identifier member
    obtain ⟨event, selected, rfl⟩ := List.mem_map.mp member
    exact covered event (Event.mem_of_mem_select selected)
  simp [platformNames, guarded, enabled]

/-- On a table of guarded events a selection that is not empty has a guard. -/
theorem guards_ne_nil_of_covered
    {request : GateRequest}
    (covered : ∀ event ∈ request.table, Guard.covers event.name = true)
    (resolved : Event.select request.table request.identifiers ≠ []) :
    request.guards ≠ [] := by
  obtain ⟨event, selected⟩ := List.exists_mem_of_ne_nil _ resolved
  have guarded := covered event (Event.mem_of_mem_select selected)
  obtain ⟨asked, known⟩ := Event.exists_mem_select_iff.mp ⟨event, selected, rfl⟩
  exact guards_ne_nil_of_enabled ⟨asked, known, guarded⟩

end GateRequest

/--
A subscription names exactly the platform events of the events it stands for,
subscribing twice changes nothing, all events but thread comments are kept as they
are and in their order, and distinct events stay distinct.  On a table of guarded
events the subscription and the gate's discriminator name the same platform events.
-/
theorem Event.subscription_agrees_with_gate :
    (∀ events : List Event,
        (∀ name,
            name ∈ (merge events).map (·.name) ↔
              ∃ event ∈ events, platformName event.name = name) ∧
          merge (merge events) = merge events ∧
          (merge events).filter
              (fun event =>
                event.name != issueComment && event.name != pullRequestComment) =
            events.filter
              (fun event =>
                event.name != issueComment && event.name != pullRequestComment) ∧
          ((events.map (·.name)).Nodup → ((merge events).map (·.name)).Nodup)) ∧
      ∀ (table : List Event) (identifiers names : List String),
        (∀ event ∈ table, Guard.covers event.name = true) →
        select table identifiers ≠ [] →
        names ≠ [] →
        ∃ discriminator commands,
          GateRequest.gate ⟨names, identifiers, true, table⟩ =
              .ok (.or (.and discriminator commands) (.not discriminator)) ∧
            ∀ name,
              name ∈ (merge (select table identifiers)).map (·.name) ↔
                name ∈ discriminator.comparedEvents := by
  constructor
  · intro events
    refine ⟨fun _ => mem_map_name_merge, merge_merge events, ?_, nodup_map_name_merge⟩
    simpa [isThreadComment, bne] using filter_merge events
  · intro table identifiers names covered resolved named
    let request : GateRequest := ⟨names, identifiers, true, table⟩
    have accepted : request.gate = .ok request.built :=
      GateRequest.gate_eq_ok_iff.mpr
        ⟨named, GateRequest.guards_ne_nil_of_covered covered resolved, rfl⟩
    refine ⟨request.discriminator, request.commands, accepted, ?_⟩
    intro name
    rw [mem_map_name_merge, GateRequest.discriminator,
      Condition.comparedEvents_alternatives_eventIs,
      GateRequest.mem_platformNames_iff_of_covered covered]

/-- Both kinds of thread comments are delivered, and gated, as one platform event. -/
theorem Event.subscription_agrees_with_gate_of_both_threads :
    ∃ discriminator commands,
      GateRequest.gate
            ⟨["deploy"], ["pull_request_comment", "issues", "issue_comment"], true,
              table⟩ =
          .ok (.or (.and discriminator commands) (.not discriminator)) ∧
        ∀ name,
          name ∈ ["issues", "issue_comment"] ↔ name ∈ discriminator.comparedEvents := by
  have merged :
      (merge
          (select table ["pull_request_comment", "issues", "issue_comment"])).map
            (·.name) =
        ["issues", "issue_comment"] := by
    decide +kernel
  obtain ⟨_, agrees⟩ := subscription_agrees_with_gate
  obtain ⟨discriminator, commands, accepted, same⟩ :=
    agrees table ["pull_request_comment", "issues", "issue_comment"] ["deploy"]
      (by decide +kernel) (by decide +kernel) (by decide)
  rw [merged] at same
  exact ⟨discriminator, commands, accepted, same⟩

end WorkflowConditions
