namespace WorkflowConditions.ListFacts

/-!
# Facts about lists

Where a class of items ends in a list, and lists without repetitions.
-/

/-- A list that does not start in the class is left alone. -/
theorem dropWhile_eq_self_of_head
    {dropped : α → Bool}
    {items : List α}
    (kept : ∀ item ∈ items.head?, dropped item = false) :
    items.dropWhile dropped = items := by
  cases items with
  | nil =>
      rfl
  | cons head rest =>
      exact List.dropWhile_cons_of_neg (by simp [kept head rfl])

/-- A front of the class is dropped up to the first item that is not of it. -/
theorem dropWhile_append_of_stop
    {dropped : α → Bool}
    {front rest : List α}
    (inClass : ∀ item ∈ front, dropped item = true)
    (stops : ∀ item ∈ rest.head?, dropped item = false) :
    (front ++ rest).dropWhile dropped = rest := by
  rw [List.dropWhile_append_of_pos inClass, dropWhile_eq_self_of_head stops]

/-- A front of the class is taken up to the first item that is not of it. -/
theorem takeWhile_append_of_stop
    {taken : α → Bool}
    {front rest : List α}
    (inClass : ∀ item ∈ front, taken item = true)
    (stops : ∀ item ∈ rest.head?, taken item = false) :
    (front ++ rest).takeWhile taken = front := by
  have whole := List.takeWhile_append_dropWhile (p := taken) (l := front ++ rest)
  rw [dropWhile_append_of_stop inClass stops] at whole
  exact List.append_cancel_right whole

/-- Dropping repetitions keeps every item once. -/
theorem nodup_eraseDups [BEq α] [LawfulBEq α] :
    (items : List α) → items.eraseDups.Nodup
  | [] => by
      simp
  | item :: others => by
      rw [List.eraseDups_cons, List.nodup_cons]
      refine ⟨?_, nodup_eraseDups _⟩
      simp [List.mem_eraseDups]
termination_by items => items.length
decreasing_by
  exact Nat.lt_succ_of_le (List.length_filter_le _ _)

end WorkflowConditions.ListFacts
