import Mathlib.Data.List.TakeWhile
import WorkflowConditions.Proofs.ListFacts
import WorkflowConditions.Text.Space

namespace WorkflowConditions.Text

open ListFacts (dropWhile_eq_self_of_head)

/-!
# Trimming

Trimming cuts white space off both ends and nothing else.  White space at the
end of a text that begins with something else is exactly what trimming removes.
-/

/-- A list with nothing of the class at its ends is left alone. -/
theorem trimBy_eq_self
    {dropped : α → Bool}
    {items : List α}
    (firstKept : ∀ item ∈ items.head?, dropped item = false)
    (lastKept : ∀ item ∈ items.getLast?, dropped item = false) :
    trimBy dropped items = items := by
  have reversedKept : ∀ item ∈ items.reverse.head?, dropped item = false := by
    simpa using lastKept
  rw [trimBy, dropWhile_eq_self_of_head firstKept,
    dropWhile_eq_self_of_head reversedKept, List.reverse_reverse]

/-- What is trimmed does not end in the class. -/
theorem getLast?_trimBy
    (dropped : α → Bool)
    (items : List α) :
    ∀ item ∈ (trimBy dropped items).getLast?, dropped item = false := by
  intro item last
  rw [trimBy, List.getLast?_reverse, Option.mem_def] at last
  have first := List.head?_dropWhile_not dropped (items.dropWhile dropped).reverse
  rwa [last] at first

/-- Trimming does not see members of the class at the front of a list. -/
theorem trimBy_of_all_append
    {dropped : α → Bool}
    {front items : List α}
    (inClass : ∀ item ∈ front, dropped item = true) :
    trimBy dropped (front ++ items) = trimBy dropped items := by
  rw [trimBy, List.dropWhile_append_of_pos inClass, trimBy]

/-- Trimming does not see members of the class at the end of a list. -/
theorem trimBy_append_of_all
    {dropped : α → Bool}
    {items back : List α}
    (inClass : ∀ item ∈ back, dropped item = true) :
    trimBy dropped (items ++ back) = trimBy dropped items := by
  have reversed : ∀ item ∈ back.reverse, dropped item = true := by
    simpa using inClass
  unfold trimBy
  rw [List.dropWhile_append]
  split
  case isTrue allDropped =>
    have frontDropped : items.dropWhile dropped = [] := by
      simpa using allDropped
    rw [frontDropped, List.dropWhile_eq_nil_iff.mpr inClass]
  case isFalse =>
    rw [List.reverse_append, List.dropWhile_append_of_pos reversed]

/--
A list that begins outside the class is its trimmed part followed by members of
the class.
-/
theorem exists_trimBy_append
    {dropped : α → Bool}
    {head : α}
    (rest : List α)
    (kept : dropped head = false) :
    ∃ back,
      head :: rest = trimBy dropped (head :: rest) ++ back ∧
        ∀ item ∈ back, dropped item = true := by
  refine ⟨((head :: rest).reverse.takeWhile dropped).reverse, ?_, ?_⟩
  · have whole :
        (head :: rest).reverse.takeWhile dropped ++
            (head :: rest).reverse.dropWhile dropped =
          (head :: rest).reverse :=
      List.takeWhile_append_dropWhile
    have reversed := congrArg List.reverse whole
    simp only [List.reverse_append, List.reverse_reverse] at reversed
    unfold trimBy
    rw [List.dropWhile_cons_of_neg (by simp [kept])]
    exact reversed.symm
  · intro item member
    exact List.all_eq_true.mp List.all_takeWhile item
      (List.mem_reverse.mp member)

/-- Trimming keeps a first item that is not of the class. -/
theorem exists_trimBy_eq_cons
    {dropped : α → Bool}
    {head : α}
    (rest : List α)
    (kept : dropped head = false) :
    ∃ later, trimBy dropped (head :: rest) = head :: later := by
  obtain ⟨back, whole, inClass⟩ := exists_trimBy_append rest kept
  cases trimmed : trimBy dropped (head :: rest) with
  | nil =>
      rw [trimmed, List.nil_append] at whole
      have headDropped := inClass head (by simp [← whole])
      rw [kept] at headDropped
      contradiction
  | cons first later =>
      rw [trimmed, List.cons_append] at whole
      rw [← (List.cons.inj whole).1]
      exact ⟨later, rfl⟩

/-- Trimming twice is trimming once. -/
theorem trimBy_trimBy_of_kept_head
    {dropped : α → Bool}
    {head : α}
    (rest : List α)
    (kept : dropped head = false) :
    trimBy dropped (trimBy dropped (head :: rest)) =
      trimBy dropped (head :: rest) := by
  obtain ⟨back, whole, inClass⟩ := exists_trimBy_append rest kept
  calc
    trimBy dropped (trimBy dropped (head :: rest)) =
        trimBy dropped (trimBy dropped (head :: rest) ++ back) :=
      (trimBy_append_of_all inClass).symm
    _ = trimBy dropped (head :: rest) := by
      rw [← whole]

/-- Trimming takes from the front only up to what is kept, and leaves a kept end. -/
theorem trimBy_append_cons_of_kept
    {dropped : α → Bool}
    {head : α}
    (front back : List α)
    (headKept : dropped head = false)
    (lastKept : ∀ item ∈ (head :: back).getLast?, dropped item = false) :
    trimBy dropped (front ++ head :: back) = front.dropWhile dropped ++ head :: back := by
  have reversedKept :
      ∀ item ∈ (front.dropWhile dropped ++ head :: back).reverse.head?,
        dropped item = false := by
    rw [List.head?_reverse, List.getLast?_append, List.getLast?_cons,
      Option.some_or, ← List.getLast?_cons]
    exact lastKept
  have leftKept :
      (front ++ head :: back).dropWhile dropped = front.dropWhile dropped ++ head :: back := by
    rw [List.dropWhile_append]
    split
    case isTrue allDropped =>
      rw [List.isEmpty_iff.mp allDropped, List.nil_append,
        List.dropWhile_cons_of_neg (by simp [headKept])]
    case isFalse =>
      rfl
  rw [trimBy, leftKept, dropWhile_eq_self_of_head reversedKept, List.reverse_reverse]

/-- A list outside the class is its trimmed part with members of the class around. -/
theorem exists_append_trimBy_append
    {dropped : α → Bool}
    {items : List α}
    (outside : ∃ item ∈ items, dropped item = false) :
    ∃ front back,
      items = front ++ (trimBy dropped items ++ back) ∧
        (∀ item ∈ front, dropped item = true) ∧
        (∀ item ∈ back, dropped item = true) ∧
        ∃ item ∈ (trimBy dropped items).head?, dropped item = false := by
  have split : items.takeWhile dropped ++ items.dropWhile dropped = items :=
    List.takeWhile_append_dropWhile
  have frontDropped : ∀ item ∈ items.takeWhile dropped, dropped item = true :=
    List.all_eq_true.mp List.all_takeWhile
  have first := List.head?_dropWhile_not dropped items
  cases shape : items.dropWhile dropped with
  | nil =>
      obtain ⟨item, member, kept⟩ := outside
      have isDropped := List.dropWhile_eq_nil_iff.mp shape item member
      rw [kept] at isDropped
      cases isDropped
  | cons head rest =>
      rw [shape] at first split
      have trimmed : trimBy dropped items = trimBy dropped (head :: rest) := by
        rw [← split, trimBy_of_all_append frontDropped]
      obtain ⟨back, whole, backDropped⟩ := exists_trimBy_append rest first
      obtain ⟨later, begins⟩ := exists_trimBy_eq_cons rest first
      rw [trimmed]
      refine ⟨items.takeWhile dropped, back, ?_, frontDropped, backDropped, head, ?_,
        first⟩
      · rw [← whole, split]
      · simp [begins]

/-! ## What trimming leaves -/

/-- What is left of a text without the white space around it. -/
structure Trimmed
    (text core : List Char) :
    Prop where
  around :
    ∃ front back,
      text = front ++ (core ++ back) ∧
        (∀ c ∈ front, isSpace c = true) ∧
        ∀ c ∈ back, isSpace c = true
  first : ∀ c ∈ core.head?, isSpace c = false
  last : ∀ c ∈ core.getLast?, isSpace c = false

/-- What is left by trimming is trimmed. -/
theorem trimmed_trimChars (text : List Char) :
    Trimmed text (trimChars text) := by
  by_cases visible : ∃ c ∈ text, isSpace c = false
  · obtain ⟨front, back, whole, frontBlank, backBlank, head, isHead, headKept⟩ :=
      exists_append_trimBy_append visible
    refine ⟨⟨front, back, whole, frontBlank, backBlank⟩, ?_, getLast?_trimBy isSpace text⟩
    intro c isFirst
    rwa [← Option.mem_unique isHead isFirst]
  · have blank : ∀ c ∈ text, isSpace c = true := by
      simpa using visible
    have trimmed : trimChars (text ++ []) = [] := trimBy_of_all_append blank
    rw [List.append_nil] at trimmed
    rw [trimmed]
    exact ⟨⟨text, [], by simp, blank, by simp⟩, by simp, by simp⟩

/-- Trimming leaves what is left of a text without the white space around it. -/
theorem trimmed_iff
    {text core : List Char} :
    Trimmed text core ↔ trimChars text = core := by
  constructor
  · rintro ⟨⟨front, back, rfl, frontBlank, backBlank⟩, firstKept, lastKept⟩
    rw [trimChars, trimBy_of_all_append frontBlank, trimBy_append_of_all backBlank,
      trimBy_eq_self firstKept lastKept]
  · rintro rfl
    exact trimmed_trimChars text

end WorkflowConditions.Text
