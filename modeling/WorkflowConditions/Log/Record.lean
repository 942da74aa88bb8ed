import WorkflowConditions.Value.Basic

namespace WorkflowConditions.Log

/-!
# Log records

A record says what happened, where, and with which data.  Data bound to the
context of a command is added to every record, below the record's own.
-/

/-- Something that happened. -/
structure Record where
  /-- Name of the logger. -/
  logger : String
  event : String
  fields : Value.Fields
  deriving Repr

/-- The bindings that are in force, the innermost first. -/
structure Context where
  scopes : List Value.Fields
  deriving Repr

namespace Context

/-- Nothing is bound. -/
def empty : Context :=
  ⟨[]⟩

/-- All that is bound; an inner scope hides an outer one. -/
def bound (context : Context) : Value.Fields :=
  context.scopes.foldr
    (fun scope known => scope.foldl (fun known field => known.insert field.1 field.2) known) []

/-- Enter a scope. -/
def enter
    (context : Context)
    (fields : Value.Fields) :
    Context :=
  ⟨fields :: context.scopes⟩

/-- Leave the innermost scope. -/
def leave (context : Context) : Context :=
  ⟨context.scopes.tail⟩

/-- Entering a scope and leaving it changes nothing. -/
@[simp]
theorem leave_enter
    (context : Context)
    (fields : Value.Fields) :
    (context.enter fields).leave = context := by
  rfl

end Context

/-- The data of a debugging record in a context. -/
def Record.data
    (context : Context)
    (record : Record) :
    Value.Fields :=
  let own : Value.Fields :=
    record.fields ++
      [("event", .text record.event), ("level", .text "debug"), ("logger", .text record.logger)]
  own.foldl (fun known field => known.insert field.1 field.2) context.bound

end WorkflowConditions.Log
