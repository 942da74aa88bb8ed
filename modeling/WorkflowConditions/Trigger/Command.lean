import WorkflowConditions.Condition.Build
import WorkflowConditions.Failure
import WorkflowConditions.Trigger.Event

namespace WorkflowConditions

/-!
# The gate of a command

A command runs a workflow when its name, after a slash, appears in the text that
belongs to the event.  The gate is the condition for that: a guard for every
enabled event.  When the workflow has other triggers too, events that are none of
the guarded ones pass freely.
-/

/-- Which comments of a shared platform event a guard admits. -/
inductive Thread where
  | issue
  | pullRequest
  deriving Repr, DecidableEq

/-- Where the text of an event is found. -/
structure Guard where
  identifier : String
  /-- Path of the text. -/
  body : String
  /-- The kind of thread a comment has to belong to, if it matters. -/
  thread : Option Thread
  deriving Repr, DecidableEq

namespace Guard

/-- Path of a comment's text. -/
def commentBody : String :=
  "github.event.comment.body"

/-- Path that is set when a comment belongs to a pull request. -/
def pullRequestPath : String :=
  "github.event.issue.pull_request"

/-- All guards, in the order in which a gate lists them. -/
def table : List Guard :=
  [⟨"issues", "github.event.issue.body", none⟩,
    ⟨Event.issueComment, commentBody, some .issue⟩,
    ⟨Event.pullRequestComment, commentBody, some .pullRequest⟩,
    ⟨"pull_request_review_comment", commentBody, none⟩,
    ⟨"pull_request", "github.event.pull_request.body", none⟩,
    ⟨"discussion", "github.event.discussion.body", none⟩,
    ⟨"discussion_comment", commentBody, none⟩]

/-- Whether an identifier has a guard. -/
def covers (identifier : String) : Bool :=
  table.any (·.identifier == identifier)

/-- Some command is mentioned in the text at a path. -/
def mentions
    (names : List String)
    (body : String) :
    Condition :=
  .alternatives false
    (names.map fun name => .contains (.property body) (.string ("/" ++ name)))

/-- A comment belongs to a kind of thread. -/
def Thread.condition : Thread → Condition
  | .issue => .compare .equal (.property pullRequestPath) .nullValue
  | .pullRequest => .compare .notEqual (.property pullRequestPath) .nullValue

/-- The event of a guard has happened and mentions some command. -/
def condition
    (guard : Guard)
    (names : List String) :
    Condition :=
  let event := Condition.eventIs (Event.platformName guard.identifier)
  let mention := mentions names guard.body
  match guard.thread with
  | none => .and event mention
  | some thread => .and event (.and mention (Thread.condition thread))

end Guard

/-- Why a gate cannot be built. -/
inductive GateError where
  /-- No command has a name. -/
  | noNames
  /-- No enabled event has a guard. -/
  | noEvents (names : List String)
  deriving Repr, DecidableEq

namespace GateError

/-- What is reported. -/
def failure : GateError → Failure
  | .noNames => .command "no command names provided" []
  | .noEvents names =>
      .command
        ("no valid comment events specified for commands " ++ Text.showList names ++
          " - at least one event must be enabled")
        names

end GateError

/-- A request for the gate of some commands. -/
structure GateRequest where
  names : List String
  /-- Identifiers of the enabled events; none enables the whole table. -/
  identifiers : List String
  /-- The workflow has other triggers, which always pass. -/
  otherTriggers : Bool
  table : List Event := Event.table
  deriving Repr

namespace GateRequest

/-- Identifiers of the enabled events that the table knows. -/
def enabled (request : GateRequest) : List String :=
  (Event.select request.table request.identifiers).map (·.name)

/-- Enabled identifiers that have a guard. -/
def guarded (request : GateRequest) : List String :=
  request.enabled.filter Guard.covers

/-- The guards of the enabled events. -/
def guards (request : GateRequest) : List Guard :=
  Guard.table.filter fun guard => request.guarded.contains guard.identifier

/-- The platform events of the guards, each once. -/
def platformNames (request : GateRequest) : List String :=
  (request.guarded.map Event.platformName).eraseDups

/-- The event is one of the guarded ones. -/
def discriminator (request : GateRequest) : Condition :=
  .alternatives false (request.platformNames.map Condition.eventIs)

/-- The condition that gates a workflow on some commands. -/
def gate (request : GateRequest) : Except GateError Condition :=
  if request.names.isEmpty then .error .noNames
  else if request.guards.isEmpty then .error (.noEvents request.names)
  else
    let commands :=
      Condition.alternatives false (request.guards.map (·.condition request.names))
    if request.otherTriggers then
      .ok (.or (.and request.discriminator commands) (.not request.discriminator))
    else .ok commands

end GateRequest

/-- A trigger may be written as a slash and the name of a command. -/
inductive Shorthand where
  /-- The text is no slash command. -/
  | other
  /-- The text is a slash without a name. -/
  | nameless
  | command (name : String)
  deriving Repr, DecidableEq

namespace Shorthand

/-- Read a trigger's text. -/
def read (text : String) : Shorthand :=
  match text.toList with
  | '/' :: [] => .nameless
  | '/' :: name => .command (String.ofList name)
  | _ => .other

/-- The report of a slash without a name. -/
def namelessFailure (text : String) : Failure :=
  .shorthand "slash command shorthand cannot be empty after '/'" (some text)

/-- The triggers that a command's name stands for: the command and a manual start. -/
def triggers (name : String) : Value.Fields :=
  [("slash_command", .text name), ("workflow_dispatch", .null)]

end Shorthand

end WorkflowConditions
