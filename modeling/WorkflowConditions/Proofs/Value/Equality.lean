import WorkflowConditions.Value.Basic

namespace WorkflowConditions.Value

/-!
# Equality of values

Values are nested in lists and in fields, so their equality is decided by a
comparison that goes down all three together.
-/

mutual

/-- Whether two values are the same. -/
def same : Value → Value → Bool
  | .null, .null => true
  | .boolean first, .boolean second => first == second
  | .integer first, .integer second => first == second
  | .float first, .float second => first == second
  | .text first, .text second => first == second
  | .list first, .list second => sameItems first second
  | .record first, .record second => sameFields first second
  | _, _ => false

/-- Whether two lists of values are the same. -/
def sameItems : List Value → List Value → Bool
  | [], [] => true
  | first :: firsts, second :: seconds => same first second && sameItems firsts seconds
  | _, _ => false

/-- Whether two lists of fields are the same. -/
def sameFields : Fields → Fields → Bool
  | [], [] => true
  | (name, first) :: firsts, (other, second) :: seconds =>
      name == other && same first second && sameFields firsts seconds
  | _, _ => false

end

mutual

/-- The comparison of values decides their equality. -/
theorem same_eq_true_iff : (first second : Value) → (same first second = true ↔ first = second)
  | .null, second | .boolean _, second | .integer _, second | .float _, second
  | .text _, second => by
      cases second <;>
        simp [same]
  | .list firsts, second => by
      cases second with
      | list seconds =>
          rw [same, sameItems_eq_true_iff firsts seconds, Value.list.injEq]
      | _ =>
          simp [same]
  | .record firsts, second => by
      cases second with
      | record seconds =>
          rw [same, sameFields_eq_true_iff firsts seconds, Value.record.injEq]
      | _ =>
          simp [same]

theorem sameItems_eq_true_iff :
    (firsts seconds : List Value) → (sameItems firsts seconds = true ↔ firsts = seconds)
  | [], seconds => by
      cases seconds <;>
        simp [sameItems]
  | first :: firsts, [] => by
      simp [sameItems]
  | first :: firsts, second :: seconds => by
      rw [sameItems, Bool.and_eq_true, same_eq_true_iff first second,
        sameItems_eq_true_iff firsts seconds, List.cons.injEq]

theorem sameFields_eq_true_iff :
    (firsts seconds : Fields) → (sameFields firsts seconds = true ↔ firsts = seconds)
  | [], seconds => by
      cases seconds <;>
        simp [sameFields]
  | first :: firsts, [] => by
      simp [sameFields]
  | (name, first) :: firsts, (other, second) :: seconds => by
      rw [sameFields, Bool.and_eq_true, Bool.and_eq_true, beq_iff_eq,
        same_eq_true_iff first second, sameFields_eq_true_iff firsts seconds,
        List.cons.injEq, Prod.mk.injEq]

end

instance : DecidableEq Value :=
  fun first second => decidable_of_iff _ (same_eq_true_iff first second)

end WorkflowConditions.Value
