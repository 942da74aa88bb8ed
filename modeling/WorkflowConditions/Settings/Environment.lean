import WorkflowConditions.Settings.Basic
import WorkflowConditions.Text.Case
import WorkflowConditions.Value.Json.Read
import WorkflowConditions.Value.Merge

namespace WorkflowConditions

/-!
# Settings from the environment

Variables whose names start with the program's name set what the rest of the name
says, whatever its case.  The widths are given as one JSON value, or one by one
with a double underscore before each name on the way.
-/

/-- Environment variables, in their order. -/
abbrev Environment := List (String × String)

namespace Environment

/-- Variables under lower-case names; a later one of the same name replaces an earlier one. -/
def folded (environment : Environment) : Value.Fields :=
  Value.Fields.ofList (environment.map fun (name, text) => (Text.lower name, .text text))

/-- The text of a variable, by its lower-case name. -/
def lookup?
    (entries : Value.Fields)
    (name : String) :
    Option String :=
  match Value.Fields.get? entries name with
  | some (.text text) => some text
  | _ => none

/-- What the names of all variables start with, in lower case. -/
def start : String :=
  "outrider_"

/-- Cut a text at every double underscore. -/
def splitPath : List Char → List (List Char)
  | [] => [[]]
  | '_' :: '_' :: rest => [] :: splitPath rest
  | c :: rest =>
      match splitPath rest with
      | [] => [[c]]
      | first :: others => (c :: first) :: others

/-- Put a text at the end of a path of keys; a path that runs into a text ends there. -/
def insertPath
    (fields : Value.Fields)
    (text : String) :
    List String → Value.Fields
  | [] => fields
  | [key] => fields.insert key (.text text)
  | key :: next :: others =>
      match Value.Fields.get? fields key with
      | none => fields.insert key (.record (insertPath [] text (next :: others)))
      | some (.record inner) =>
          fields.insert key (.record (insertPath inner text (next :: others)))
      | some _ => fields

/-- The keys that a variable's name spells after a start, if it has that start. -/
def path?
    (front name : String) :
    Option (List String) :=
  if front.toList.isPrefixOf name.toList then
    some ((splitPath (name.toList.drop front.length)).map String.ofList)
  else none

/-- The widths that are set one by one. -/
def nestedWidths (entries : Value.Fields) : Value.Fields :=
  entries.foldl
    (fun known (name, value) =>
      match path? (start ++ Settings.widthsKey ++ "__") name, value with
      | some path, .text text => insertPath known text path
      | _, _ => known)
    []

/-- The names of the widths. -/
def widthNames : List String :=
  [Settings.WidthField.line, Settings.WidthField.connective, Settings.WidthField.group].map
    (·.name)

/-- The spelling of a width's name, whatever its case; other names stay. -/
def canonicalKey (key : String) : String :=
  (widthNames.find? (Text.lower · == Text.lower key)).getD key

/-- Fields under the spelling of their names. -/
def canonical (fields : Value.Fields) : Value.Fields :=
  Value.Fields.ofList (fields.map fun (key, value) => (canonicalKey key, value))

/-- The widths are set by a variable that is no JSON. -/
structure Unreadable where
  field : String
  deriving Repr, DecidableEq

/-- What is reported of an unreadable variable. -/
def Unreadable.message (error : Unreadable) : String :=
  "error parsing value for field \"" ++ error.field ++ "\" from source \"EnvSettingsSource\""

/-- The widths that the environment sets, if it does, with a reader of JSON. -/
def widths?
    (json? : String → Option Value)
    (entries : Value.Fields) :
    Except Unreadable (Option Value) :=
  match lookup? entries (start ++ Settings.widthsKey) with
  | none =>
      match nestedWidths entries with
      | [] => .ok none
      | fields => .ok (some (.record (canonical fields)))
  | some document =>
      match json? document with
      | none => .error ⟨Settings.widthsKey⟩
      | some .null => .ok none
      | some (.record fields) =>
          .ok (some (.record (canonical (Value.Fields.layer fields (nestedWidths entries)))))
      | some value => .ok (some value)

/-- The settings that the environment sets, with a reader of JSON. -/
def fieldsBy
    (json? : String → Option Value)
    (environment : Environment) :
    Except Unreadable Value.Fields :=
  let entries := folded environment
  match widths? json? entries with
  | .error error => .error error
  | .ok widths =>
      let widthsField := (widths.map fun value => (Settings.widthsKey, value)).toList
      let verbosityField :=
        ((lookup? entries (start ++ Settings.verbosityKey)).map fun text =>
          (Settings.verbosityKey, Value.text text)).toList
      .ok (widthsField ++ verbosityField)

/-- The settings that the environment sets. -/
def fields (environment : Environment) : Except Unreadable Value.Fields :=
  environment.fieldsBy Json.parse?

end Environment

end WorkflowConditions
