import WorkflowConditions.Value.Basic

namespace WorkflowConditions

/-!
# Comment events

A command can be typed wherever users write text: in issues, pull requests,
discussions and comments.  The events that carry such text form a fixed table.  A
comment on a pull request is no event of its own on the platform; it is delivered
as an issue comment.
-/

/-- An event that carries text written by a user. -/
structure Event where
  /-- Identifier of the event. -/
  name : String
  /-- Activity types a workflow listens for. -/
  types : List String
  /-- Restricted to comments on pull requests. -/
  onPullRequest : Bool := false
  /-- Restricted to comments on issues. -/
  onIssue : Bool := false
  deriving Repr, DecidableEq

namespace Event

/-- Identifier of a comment on an issue, and of the platform event of all such comments. -/
def issueComment : String :=
  "issue_comment"

/-- Identifier of a comment on a pull request. -/
def pullRequestComment : String :=
  "pull_request_comment"

/-- Activity types of texts that are opened. -/
def openedTypes : List String :=
  ["opened", "edited", "reopened"]

/-- Activity types of texts that are created. -/
def createdTypes : List String :=
  ["created", "edited"]

/-- All comment events. -/
def table : List Event :=
  [{ name := "issues", types := openedTypes },
    { name := issueComment, types := createdTypes, onIssue := true },
    { name := pullRequestComment, types := createdTypes, onPullRequest := true },
    { name := "pull_request", types := openedTypes },
    { name := "pull_request_review_comment", types := createdTypes },
    { name := "discussion", types := createdTypes },
    { name := "discussion_comment", types := createdTypes }]

/-- The first event of a table with the given identifier. -/
def find?
    (events : List Event)
    (identifier : String) :
    Option Event :=
  events.find? (·.name == identifier)

/--
The events of a table that some identifiers select, in the order of the
identifiers.  Unknown identifiers select nothing, and no identifiers at all select
the whole table.
-/
def select
    (events : List Event)
    (identifiers : List String) :
    List Event :=
  if identifiers.isEmpty then events else identifiers.filterMap (find? events)

/-- The platform event that delivers an identifier. -/
def platformName (identifier : String) : String :=
  if identifier = pullRequestComment ∨ identifier = issueComment then issueComment
  else identifier

/-- Whether an event is a comment on an issue or on a pull request. -/
def isThreadComment (event : Event) : Bool :=
  event.name == issueComment || event.name == pullRequestComment

/-- A comment on a pull request as the platform event that delivers it. -/
def asPlatformEvent (event : Event) : Event :=
  if event.name = pullRequestComment then
    { name := issueComment, types := event.types, onPullRequest := true }
  else event

/--
The platform events that a workflow subscribes to for some comment events.  When
comments on issues and on pull requests are both wanted, one unrestricted event
stands for them, after all others.
-/
def merge (events : List Event) : List Event :=
  if events.any (·.name == issueComment) && events.any (·.name == pullRequestComment) then
    events.filter (!·.isThreadComment) ++ [{ name := issueComment, types := createdTypes }]
  else events.map asPlatformEvent

/-- The text of a value that is text. -/
def textOf? : Value → Option String
  | .text text => some text
  | _ => none

/--
Identifiers that a trigger's configuration names: one, several, or none for all
events.  Items of a list that are no text are passed over.
-/
def identifiers? : Value → Option (List String)
  | .text "*" => none
  | .text identifier => some [identifier]
  | .list items =>
      match items.filterMap textOf? with
      | [] => none
      | found => some found
  | _ => none

end Event

end WorkflowConditions
