import WorkflowConditions.Decimal.Binary64

namespace WorkflowConditions

/-!
# Dynamic values

Settings, import inputs and log fields are data of no fixed shape: the values of a
data format, with records that keep the order of their fields.
-/

/-- A value of a data format. -/
inductive Value where
  | null
  | boolean (value : Bool)
  | integer (value : Int)
  | float (value : Binary64)
  | text (value : String)
  | list (items : List Value)
  | record (fields : List (String × Value))
  deriving Repr, BEq, Inhabited

namespace Value

/-- Most digits of an integer that is read from decimal digits or written with them. -/
def longestInteger : Nat :=
  4300

/-- Fields of a record. -/
abbrev Fields := List (String × Value)

namespace Fields

/-- The value of a field. -/
def get? : Fields → String → Option Value
  | [], _ => none
  | (key, value) :: rest, wanted => if key = wanted then some value else get? rest wanted

/-- Set a field: a known one keeps its place, a new one comes last. -/
def insert : Fields → String → Value → Fields
  | [], key, value => [(key, value)]
  | (known, old) :: rest, key, value =>
      if known = key then (known, value) :: rest else (known, old) :: insert rest key value

/-- What a field holds once it has been set. -/
@[simp]
theorem get?_insert_self
    (fields : Fields)
    (key : String)
    (value : Value) :
    (fields.insert key value).get? key = some value := by
  induction fields with
  | nil => simp [insert, get?]
  | cons field rest inductionHypothesis =>
      obtain ⟨known, old⟩ := field
      by_cases same : known = key <;> simp [insert, get?, same, inductionHypothesis]

/-- Setting a field leaves the others as they are. -/
theorem get?_insert_of_ne
    (fields : Fields)
    {key other : String}
    (value : Value)
    (different : key ≠ other) :
    (fields.insert key value).get? other = fields.get? other := by
  induction fields with
  | nil => simp [insert, get?, different]
  | cons field rest inductionHypothesis =>
      obtain ⟨known, old⟩ := field
      by_cases same : known = key
      · subst same
        simp [insert, get?, different]
      · simp [insert, get?, same, inductionHypothesis]

/-- Fields of a listing in which a later field overrides an earlier one of its name. -/
def ofList (fields : List (String × Value)) : Fields :=
  fields.foldl (fun known field => known.insert field.1 field.2) []

end Fields

end Value

end WorkflowConditions
