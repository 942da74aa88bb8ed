import WorkflowConditions.Value.Basic

namespace WorkflowConditions.Value

/-!
# Layering values

A layer of settings overrides the one below it.  Records are layered field by
field; every other value replaces what it overrides.
-/

mutual

/-- What is left of `lower` under `upper`. -/
def override (lower : Value) : (upper : Value) → Value
  | .record upper =>
      match lower with
      | .record lower => .record (overrideFields lower upper)
      | _ => .record upper
  | upper => upper

/-- Fields of `lower` under fields of `upper`; the lower ones keep their places. -/
def overrideFields (lower : Fields) : (upper : Fields) → Fields
  | [] => lower
  | (key, value) :: rest =>
      let merged :=
        match lower.get? key with
        | some known => override known value
        | none => value
      overrideFields (lower.insert key merged) rest

end

/-- Layer the fields of a record over those of another. -/
def Fields.layer (lower upper : Fields) : Fields :=
  overrideFields lower upper

end WorkflowConditions.Value
