import WorkflowConditions.Layout.Lines
import WorkflowConditions.Log.Record
import WorkflowConditions.Trigger.Command

namespace WorkflowConditions.CommandLine

/-!
# Traces

What a command does is told by debugging records.  They follow from its input, so
they are computed beside its result.
-/

namespace Trace

open Log (Record)

/-- Logger of the parser. -/
def parserLogger : String :=
  "outrider.conditions.parser"

/-- Logger of the scanner. -/
def scannerLogger : String :=
  "outrider.conditions.tokenizer"

/-- Logger of the gate. -/
def gateLogger : String :=
  "outrider.conditions.command"

/-- Logger of the event table. -/
def eventLogger : String :=
  "outrider.conditions.events"

/-- Logger of line breaking. -/
def layoutLogger : String :=
  "outrider.conditions.formatting"

/-- Logger of the commands. -/
def commandLogger : String :=
  "outrider.cli.commands.condition"

/-- A list of texts as data. -/
def textList (texts : List String) : Value :=
  .list (texts.map .text)

/-- Scanning a condition. -/
def scanning (source : String) : Record :=
  ⟨scannerLogger, "tokenizing_expression", [("length", .integer source.length)]⟩

/-- Reading a condition; its tokens are scanned to locate errors, and once more to parse. -/
def parsing (source : String) : List Record :=
  let start : Record := ⟨parserLogger, "parsing_condition", [("expression", .text source)]⟩
  match Condition.parse source with
  | .error .blank => [start]
  | .error error =>
      [start, scanning source, scanning source,
        ⟨parserLogger, "condition_parse_failed", [("error", .text error.message)]⟩]
  | .ok _ =>
      [start, scanning source, scanning source,
        ⟨parserLogger, "condition_parsed",
          [("tokens", .integer (Token.scan source).length)]⟩]

/-- Breaking a text into lines, if it is longer than one. -/
def breaking
    (widths : Layout.Widths)
    (text : String) :
    List Record :=
  if (text.length : Int) ≤ widths.line then []
  else [⟨layoutLogger, "breaking_long_expression", [("length", .integer text.length)]⟩]

/-- The identifiers that a table does not know. -/
def dropped (request : GateRequest) : List Record :=
  let unknown :=
    request.identifiers.filter fun identifier => (Event.find? request.table identifier).isNone
  unknown.map fun identifier =>
    ⟨eventLogger, "unknown_comment_event_dropped", [("identifier", .text identifier)]⟩

/-- Building a gate. -/
def building (request : GateRequest) : List Record :=
  [⟨gateLogger, "building_command_condition",
      [("commands", textList request.names),
        ("event_count", .integer request.identifiers.length),
        ("has_other_events", .boolean request.otherTriggers)]⟩] ++
    dropped request ++
    [⟨gateLogger, "filtered_command_events", [("events", textList request.enabled)]⟩]

/-- A gate has been built. -/
def built (request : GateRequest) : Record :=
  ⟨commandLogger, "command_condition_built", [("events", textList request.identifiers)]⟩

/-- A command has failed. -/
def failed (failure : Failure) : Record :=
  ⟨commandLogger, "condition_command_failed", [("error", .text failure.kindName)]⟩

end Trace

end WorkflowConditions.CommandLine
