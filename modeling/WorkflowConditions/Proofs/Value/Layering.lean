import WorkflowConditions.Value.Merge

namespace WorkflowConditions.Value

/-!
# Looking up layered fields

A field of layered records is found in the upper layer or else in the lower one; two
records at one place are layered in turn.  This holds as long as no name of the upper
layer occurs twice, which is so of every record that was put together field by field.
-/

namespace Fields

/-- The names of fields, in their order. -/
def names (fields : Fields) : List String :=
  fields.map Prod.fst

/-- No name occurs twice. -/
def Distinct (fields : Fields) : Prop :=
  fields.names.Nodup

variable
  {fields : Fields}
  {name : String}
  {value : Value}

theorem distinct_nil : Distinct [] :=
  List.nodup_nil

theorem get?_cons
    (known : String)
    (old : Value)
    (rest : Fields)
    (name : String) :
    get? ((known, old) :: rest) name = if known = name then some old else get? rest name :=
  rfl

/-- Nothing is found under a name that is not there. -/
theorem get?_eq_none_iff : fields.get? name = none ↔ name ∉ fields.names := by
  induction fields with
  | nil =>
      simp [get?, names]
  | cons field rest inductionHypothesis =>
      obtain ⟨known, old⟩ := field
      by_cases same : known = name
      · simp [get?_cons, names, same]
      · have other : name ≠ known := fun equal => same equal.symm
        rw [get?_cons, if_neg same, inductionHypothesis]
        simp [names, other]

theorem mem_of_get? (found : fields.get? name = some value) : (name, value) ∈ fields := by
  induction fields with
  | nil =>
      cases found
  | cons field rest inductionHypothesis =>
      obtain ⟨known, old⟩ := field
      by_cases same : known = name
      · rw [get?_cons, if_pos same] at found
        simp [same, Option.some.inj found]
      · rw [get?_cons, if_neg same] at found
        exact List.mem_cons_of_mem _ (inductionHypothesis found)

/-- The first of two records is looked at first. -/
theorem get?_append (first second : Fields) (name : String) :
    get? (first ++ second) name = (get? first name).or (get? second name) := by
  induction first with
  | nil =>
      rfl
  | cons field rest inductionHypothesis =>
      obtain ⟨known, old⟩ := field
      rw [List.cons_append, get?_cons, get?_cons, inductionHypothesis]
      split <;>
        rfl

/-! ## Fields put together one by one -/

theorem mem_insert
    {field : String × Value}
    (member : field ∈ fields.insert name value) :
    field = (name, value) ∨ field ∈ fields := by
  induction fields with
  | nil =>
      simpa [insert] using member
  | cons first rest inductionHypothesis =>
      obtain ⟨known, old⟩ := first
      rw [insert] at member
      split at member
      · next same =>
          rcases List.mem_cons.mp member with isNew | inRest
          · exact .inl (same ▸ isNew)
          · exact .inr (List.mem_cons_of_mem _ inRest)
      · rcases List.mem_cons.mp member with isFirst | inRest
        · exact .inr (by simp [isFirst])
        · rcases inductionHypothesis inRest with isNew | inRest
          · exact .inl isNew
          · exact .inr (List.mem_cons_of_mem _ inRest)

/-- Setting a field keeps the names distinct. -/
theorem Distinct.insert
    (distinct : fields.Distinct)
    (name : String)
    (value : Value) :
    (fields.insert name value).Distinct := by
  induction fields with
  | nil =>
      simp [Fields.insert, Distinct, names]
  | cons field rest inductionHypothesis =>
      obtain ⟨known, old⟩ := field
      obtain ⟨fresh, restDistinct⟩ := List.nodup_cons.mp distinct
      rw [Fields.insert]
      split
      · exact List.nodup_cons.mpr ⟨fresh, restDistinct⟩
      · next other =>
          refine List.nodup_cons.mpr ⟨?_, inductionHypothesis restDistinct⟩
          intro again
          obtain ⟨field, member, isKnown⟩ := List.mem_map.mp again
          rcases mem_insert member with rfl | inRest
          · exact other isKnown.symm
          · exact fresh (List.mem_map.mpr ⟨field, inRest, isKnown⟩)

/-- What putting fields in one by one keeps, finds and adds. -/
theorem foldl_insert
    (added : List (String × Value))
    (distinct : fields.Distinct) :
    let final := added.foldl (fun known field => known.insert field.1 field.2) fields
    final.Distinct ∧
      (∀ field ∈ final, field ∈ added ∨ field ∈ fields) ∧
      ∀ name, final.get? name = (get? added.reverse name).or (fields.get? name) := by
  induction added generalizing fields with
  | nil =>
      exact ⟨distinct, fun _ member => .inr member, fun _ => rfl⟩
  | cons first rest inductionHypothesis =>
      obtain ⟨key, value⟩ := first
      obtain ⟨finalDistinct, members, lookups⟩ :=
        inductionHypothesis (distinct.insert key value)
      refine ⟨finalDistinct, ?_, ?_⟩
      · intro field member
        rcases members field member with inRest | inserted
        · exact .inl (List.mem_cons_of_mem _ inRest)
        · rcases mem_insert inserted with rfl | known
          · exact .inl (by simp)
          · exact .inr known
      · intro name
        rw [List.foldl_cons, lookups, List.reverse_cons, get?_append, Option.or_assoc]
        congr 1
        by_cases same : key = name
        · subst same
          simp [get?_cons]
        · rw [get?_insert_of_ne _ _ same, get?_cons, if_neg same]
          rfl

/-- A record made of a listing has distinct names. -/
theorem distinct_ofList (listed : List (String × Value)) : (ofList listed).Distinct :=
  (foldl_insert listed distinct_nil).1

/-- A record made of a listing has nothing but what is listed. -/
theorem mem_of_mem_ofList
    {listed : List (String × Value)}
    {field : String × Value}
    (member : field ∈ ofList listed) :
    field ∈ listed := by
  rcases (foldl_insert listed distinct_nil).2.1 field member with inList | inNothing
  · exact inList
  · cases inNothing

/-- A later field of a listing overrides an earlier one of its name. -/
theorem get?_ofList
    (listed : List (String × Value))
    (name : String) :
    (ofList listed).get? name = get? listed.reverse name := by
  have lookup := (foldl_insert listed distinct_nil).2.2 name
  rw [ofList, lookup]
  exact Option.or_none

end Fields

/-! ## Layers -/

/-- What is found at a place where one layer lies over another. -/
def overlay
    (lower upper : Option Value) :
    Option Value :=
  match lower, upper with
  | lower, none => lower
  | none, some upper => some upper
  | some lower, some upper => some (lower.override upper)

@[simp]
theorem overlay_none (lower : Option Value) : overlay lower none = lower := by
  cases lower <;>
    rfl

@[simp]
theorem none_overlay (upper : Option Value) : overlay none upper = upper := by
  cases upper <;>
    rfl

/-- A record is laid over a record field by field. -/
theorem overlay_records (lower upper : Fields) :
    overlay (some (.record lower)) (some (.record upper)) = some (.record (lower.layer upper)) := by
  rw [overlay, override, Fields.layer]

/-- A field of two layers is the one of the upper layer laid over that of the lower one. -/
theorem Fields.get?_layer
    {lower upper : Fields}
    (distinct : upper.Distinct)
    (name : String) :
    (lower.layer upper).get? name = overlay (lower.get? name) (upper.get? name) := by
  unfold layer
  induction upper generalizing lower with
  | nil =>
      rw [overrideFields]
      exact (overlay_none _).symm
  | cons field rest inductionHypothesis =>
      obtain ⟨key, value⟩ := field
      obtain ⟨fresh, restDistinct⟩ := List.nodup_cons.mp distinct
      rw [overrideFields, inductionHypothesis restDistinct, get?_cons]
      by_cases same : key = name
      · subst same
        rw [get?_eq_none_iff.mpr fresh, if_pos rfl, get?_insert_self]
        cases lower.get? key <;>
          rfl
      · rw [if_neg same, get?_insert_of_ne _ _ same]

/-- Laying fields over others keeps the names distinct. -/
theorem Fields.Distinct.layer
    {lower : Fields}
    (distinct : lower.Distinct)
    (upper : Fields) :
    (lower.layer upper).Distinct := by
  unfold Fields.layer
  induction upper generalizing lower with
  | nil =>
      rwa [overrideFields]
  | cons field rest inductionHypothesis =>
      rw [overrideFields]
      exact inductionHypothesis (distinct.insert _ _)

/-- What lies on top is found, except that a record may be layered over another one. -/
theorem overlay_eq_or
    (lower upper : Option Value) :
    overlay lower upper = upper.or lower ∨
      ∃ fields layered,
        upper = some (.record fields) ∧ overlay lower upper = some (.record layered) := by
  cases upper with
  | none =>
      cases lower <;>
        exact .inl rfl
  | some upper =>
      cases lower with
      | none =>
          exact .inl rfl
      | some lower =>
          cases upper with
          | record fields =>
              refine .inr ⟨fields, ?_⟩
              cases lower with
              | record lower =>
                  exact ⟨overrideFields lower fields, rfl, by rw [overlay, override]⟩
              | _ =>
                  exact ⟨fields, rfl, by rw [overlay, override]; simp⟩
          | _ =>
              left
              rw [overlay, override, Option.some_or]
              simp

end WorkflowConditions.Value
