namespace WorkflowConditions.Text

/-!
# Occurrences of a pattern

A word is looked for at the front of a text, and a pattern from left to right.
Replacing all occurrences of a pattern goes on behind each one that was found, so none
of them overlap.
-/

/-- The text after a fixed word at its front. -/
def after? : (word : List Char) → List Char → Option (List Char)
  | [], text => some text
  | _ :: _, [] => none
  | c :: word, d :: text => if c = d then after? word text else none

/-- A text begins with a word exactly when it is the word and what comes after. -/
theorem after?_eq_some_iff
    {word text rest : List Char} :
    after? word text = some rest ↔ text = word ++ rest := by
  induction word generalizing text with
  | nil =>
      simp [after?]
  | cons c word inductionHypothesis =>
      cases text with
      | nil =>
          simp [after?]
      | cons d text =>
          by_cases same : c = d
          · simp [after?, same, inductionHypothesis]
          · simp [after?, same, eq_comm]

/-- Whether a pattern occurs in a text. -/
def occursIn (pattern : List Char) : List Char → Bool
  | [] => pattern.isEmpty
  | c :: rest => pattern.isPrefixOf (c :: rest) || occursIn pattern rest

theorem occursIn_iff
    {pattern text : List Char} :
    occursIn pattern text = true ↔ pattern <:+: text := by
  induction text with
  | nil =>
      simp [occursIn]
  | cons c rest inductionHypothesis =>
      simp only [occursIn, Bool.or_eq_true, List.isPrefixOf_iff_prefix, inductionHypothesis,
        List.infix_cons_iff]

/-- Replace every occurrence of a pattern, from left to right and without overlap. -/
def replaceAll
    (pattern replacement text : List Char) :
    List Char :=
  match text with
  | [] => []
  | c :: rest =>
      if pattern.isPrefixOf (c :: rest) then
        replacement ++ replaceAll pattern replacement (rest.drop (pattern.length - 1))
      else c :: replaceAll pattern replacement rest
termination_by text.length
decreasing_by
  · simp only [List.length_drop, List.length_cons]
    omega
  · simp

@[simp] theorem replaceAll_nil (pattern replacement : List Char) :
    replaceAll pattern replacement [] = [] := by
  rw [replaceAll]

theorem replaceAll_cons_of_absent
    {pattern : List Char}
    (replacement : List Char)
    {c : Char}
    {rest : List Char}
    (absent : ¬pattern <+: c :: rest) :
    replaceAll pattern replacement (c :: rest) =
      c :: replaceAll pattern replacement rest := by
  rw [replaceAll, if_neg]
  simpa using absent

theorem replaceAll_append_self
    {pattern : List Char}
    (replacement : List Char)
    (nonempty : pattern ≠ [])
    (rest : List Char) :
    replaceAll pattern replacement (pattern ++ rest) =
      replacement ++ replaceAll pattern replacement rest := by
  cases pattern with
  | nil =>
      exact (nonempty rfl).elim
  | cons c others =>
      rw [List.cons_append, replaceAll, if_pos]
      · simp
      · simp [List.isPrefixOf_iff_prefix]

/-- A front in which no occurrence begins is kept. -/
theorem replaceAll_append_of_absent
    {pattern : List Char}
    (replacement : List Char)
    {front rest : List Char}
    (absent :
      ∀ suffix,
        suffix <:+ front →
        suffix ≠ [] →
        ¬pattern <+: suffix ++ rest) :
    replaceAll pattern replacement (front ++ rest) =
      front ++ replaceAll pattern replacement rest := by
  induction front with
  | nil =>
      rfl
  | cons c others inductionHypothesis =>
      have here := absent (c :: others) List.suffix_rfl (by simp)
      have later :=
        inductionHypothesis
          (fun suffix isSuffix => absent suffix (isSuffix.trans (List.suffix_cons _ _)))
      rw [List.cons_append] at here ⊢
      rw [replaceAll_cons_of_absent replacement here, later, List.cons_append]

/-- A replacement brings in no characters but its own. -/
theorem mem_of_mem_replaceAll
    {pattern replacement text : List Char}
    {c : Char}
    (member : c ∈ replaceAll pattern replacement text) :
    c ∈ replacement ∨ c ∈ text := by
  fun_induction replaceAll pattern replacement text with
  | case1 =>
      exact .inr member
  | case2 first rest _ inductionHypothesis =>
      rcases List.mem_append.mp member with new | later
      · exact .inl new
      · rcases inductionHypothesis later with new | kept
        · exact .inl new
        · exact .inr (List.mem_cons_of_mem first (List.mem_of_mem_drop kept))
  | case3 first rest _ inductionHypothesis =>
      rcases List.mem_cons.mp member with isFirst | later
      · exact .inr (List.mem_cons.mpr (.inl isFirst))
      · exact (inductionHypothesis later).imp_right (List.mem_cons_of_mem first)

section Shorter

variable {pattern replacement : List Char}

/-- A shorter replacement never lengthens a text. -/
theorem length_replaceAll_le
    (shorter : replacement.length < pattern.length)
    (text : List Char) :
    (replaceAll pattern replacement text).length ≤ text.length := by
  fun_induction replaceAll pattern replacement text with
  | case1 =>
      exact Nat.le_refl _
  | case2 c rest found inductionHypothesis =>
      have fits := (List.isPrefixOf_iff_prefix.mp found).length_le
      simp only [List.length_append, List.length_drop, List.length_cons] at *
      omega
  | case3 c rest absent inductionHypothesis =>
      exact Nat.succ_le_succ inductionHypothesis

/-- Where the pattern occurs, a shorter replacement shortens the text. -/
theorem length_replaceAll_lt
    (shorter : replacement.length < pattern.length)
    {text : List Char}
    (occurs : pattern <:+: text) :
    (replaceAll pattern replacement text).length < text.length := by
  fun_induction replaceAll pattern replacement text with
  | case1 =>
      rw [List.infix_nil.mp occurs] at shorter
      cases shorter
  | case2 c rest found _ =>
      have fits := (List.isPrefixOf_iff_prefix.mp found).length_le
      have later := length_replaceAll_le shorter (rest.drop (pattern.length - 1))
      simp only [List.length_append, List.length_drop, List.length_cons] at *
      omega
  | case3 c rest absent inductionHypothesis =>
      rcases List.infix_cons_iff.mp occurs with here | later
      · exact (absent (List.isPrefixOf_iff_prefix.mpr here)).elim
      · exact Nat.succ_lt_succ (inductionHypothesis later)

end Shorter

end WorkflowConditions.Text
