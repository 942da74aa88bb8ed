import WorkflowConditions.Proofs.Trigger.Subscription

namespace WorkflowConditions.Event

/-!
# Activity types of a subscription

A subscription takes events over with their activity types.  The one event that stands
for both kinds of thread comments has types of its own instead, so a type that either
kind has beyond these is lost.  The built-in table has no such type.
-/

instance (events : List Event) : Decidable (HasBothThreads events) :=
  inferInstanceAs (Decidable (_ ∧ _))

/-- Some events listen for an activity type under a name. -/
def Listens
    (events : List Event)
    (name type : String) :
    Prop :=
  ∃ event ∈ events, event.name = name ∧ type ∈ event.types

theorem types_asPlatformEvent (event : Event) :
    event.asPlatformEvent.types = event.types := by
  unfold asPlatformEvent
  split <;>
    rfl

/-- Unless both thread comments are there, the merge keeps all types of all events. -/
theorem listens_merge_of_separate
    {events : List Event}
    (separate : ¬HasBothThreads events)
    {name type : String} :
    Listens (merge events) name type ↔
      ∃ event ∈ events, platformName event.name = name ∧ type ∈ event.types := by
  rcases merge_cases events with ⟨both, _⟩ | ⟨_, merged⟩
  · exact (separate both).elim
  · rw [Listens, merged]
    constructor
    · rintro ⟨_, member, named, listed⟩
      obtain ⟨event, isEvent, rfl⟩ := List.mem_map.mp member
      rw [name_asPlatformEvent] at named
      rw [types_asPlatformEvent] at listed
      exact ⟨event, isEvent, named, listed⟩
    · rintro ⟨event, isEvent, named, listed⟩
      refine ⟨_, List.mem_map_of_mem isEvent, ?_, ?_⟩
      · rwa [name_asPlatformEvent]
      · rwa [types_asPlatformEvent]

/-- With both thread comments the merge has fixed types for them. -/
theorem listens_merge_of_both
    {events : List Event}
    (both : HasBothThreads events)
    {name type : String} :
    Listens (merge events) name type ↔
      (∃ event ∈ events,
          event.isThreadComment = false ∧ event.name = name ∧ type ∈ event.types) ∨
        name = issueComment ∧ type ∈ createdTypes := by
  rcases merge_cases events with ⟨_, merged⟩ | ⟨separate, _⟩
  · rw [Listens, merged]
    constructor
    · rintro ⟨event, member, named, listed⟩
      rcases List.mem_append.mp member with kept | isLast
      · obtain ⟨isEvent, other⟩ := List.mem_filter.mp kept
        exact .inl ⟨event, isEvent, by simpa using other, named, listed⟩
      · obtain rfl := List.mem_singleton.mp isLast
        exact .inr ⟨named.symm, listed⟩
    · rintro (⟨event, isEvent, other, named, listed⟩ | ⟨rfl, listed⟩)
      · have kept : event ∈ events.filter (!·.isThreadComment) :=
          List.mem_filter.mpr ⟨isEvent, by simp [other]⟩
        exact ⟨event, List.mem_append_left _ kept, named, listed⟩
      · exact ⟨_, List.mem_append_right _ (List.mem_singleton.mpr rfl), rfl, listed⟩
  · exact (separate both).elim

/-- A type of an event is kept unless one event of other types stands for it. -/
theorem listens_merge_iff
    {events : List Event}
    {event : Event}
    (member : event ∈ events)
    {type : String}
    (listed : type ∈ event.types) :
    Listens (merge events) (platformName event.name) type ↔
      (HasBothThreads events →
        event.isThreadComment = true →
        type ∈ createdTypes) := by
  by_cases both : HasBothThreads events
  · rw [listens_merge_of_both both]
    cases thread : event.isThreadComment with
    | false =>
        have named := platformName_of_not_isThreadComment thread
        simp only [Bool.false_eq_true, false_implies, implies_true, iff_true]
        exact .inl ⟨event, member, thread, named.symm, listed⟩
    | true =>
        rw [platformName_of_isThreadComment thread]
        constructor
        · rintro (⟨other, _, noComment, named, _⟩ | ⟨_, created⟩)
          · rw [isThreadComment_iff.mpr (.inl named)] at noComment
            cases noComment
          · exact fun _ _ => created
        · intro created
          exact .inr ⟨rfl, created both rfl⟩
  · rw [listens_merge_of_separate both]
    exact ⟨fun _ isBoth => (both isBoth).elim, fun _ => ⟨event, member, rfl, listed⟩⟩

/-- In the table the fixed types are those of both thread comments. -/
theorem types_of_isThreadComment :
    ∀ event ∈ table, event.isThreadComment = true → event.types = createdTypes := by
  decide

/--
For every table and every selection, the subscription listens for a type of a selected
event under its platform name exactly when the event is no thread comment, the other
kind of thread comments is not selected, or the type is one of created texts.  With the
built-in table it listens for every type.
-/
theorem merge_keeps_type_iff
    (events : List Event)
    (identifiers : List String)
    (event : Event)
    (selected : event ∈ select events identifiers)
    (type : String)
    (listed : type ∈ event.types) :
    (Listens (merge (select events identifiers)) (platformName event.name) type ↔
        (HasBothThreads (select events identifiers) →
          event.isThreadComment = true →
          type ∈ createdTypes)) ∧
      (events = table →
        Listens (merge (select events identifiers)) (platformName event.name) type) := by
  have keeps := listens_merge_iff selected listed
  refine ⟨keeps, ?_⟩
  rintro rfl
  refine keeps.mpr ?_
  intro _ thread
  rwa [types_of_isThreadComment event (mem_of_mem_select selected) thread] at listed

/-- Comments on issues that can be deleted, selected with those on pull requests. -/
theorem merge_keeps_type_iff_of_deleted_comments :
    let comment : Event :=
      { name := issueComment, types := ["created", "deleted"], onIssue := true }
    let review : Event :=
      { name := pullRequestComment, types := ["created"], onPullRequest := true }
    let discussion : Event := { name := "discussion", types := ["deleted"] }
    let merged := merge (select [comment, review, discussion] [])
    Listens merged "issue_comment" "created" ∧
      Listens merged "discussion" "deleted" ∧
      ¬Listens merged "issue_comment" "deleted" := by
  intro comment review discussion merged
  have ofComment := merge_keeps_type_iff [comment, review, discussion] [] comment (by decide)
  have ofDiscussion :=
    merge_keeps_type_iff [comment, review, discussion] [] discussion (by decide)
  refine ⟨(ofComment "created" (by decide)).1.mpr (by decide),
    (ofDiscussion "deleted" (by decide)).1.mpr (by decide), ?_⟩
  intro listens
  have created := (ofComment "deleted" (by decide)).1.mp listens (by decide) rfl
  revert created
  decide

/-- A type that only comments on issues have is not subscribed to. -/
theorem merge_drops_type_of_issue_comments :
    let selected :=
      select
        [{ name := issueComment, types := ["created", "edited", "deleted"], onIssue := true },
          { name := pullRequestComment, types := createdTypes, onPullRequest := true }]
        ["issue_comment", "pull_request_comment"]
    merge selected = [{ name := "issue_comment", types := ["created", "edited"] }] ∧
      ∃ event ∈ selected, ∃ type ∈ event.types,
        ¬∃ entry ∈ merge selected,
          entry.name = platformName event.name ∧ type ∈ entry.types := by
  decide +kernel

end WorkflowConditions.Event
