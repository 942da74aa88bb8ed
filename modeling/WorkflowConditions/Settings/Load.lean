import WorkflowConditions.Settings.Environment
import WorkflowConditions.Settings.Yaml.Document

namespace WorkflowConditions.Settings

/-!
# Loading settings

Settings come in layers: the user's file below the project's file, and the
environment on top.  A file that is absent or empty sets nothing.  Documents and JSON
are read by readers that loading is given; the ones of this library come last.
-/

/-- Readers of documents and of JSON. -/
structure Readers where
  document : String → Except Yaml.Problem Value
  json? : String → Option Value

/-- The readers of this library. -/
def readers : Readers :=
  ⟨Yaml.parse, Json.parse?⟩

/-- What stands at a path. -/
inductive Content where
  | absent
  | directory
  | document (text : String)
  deriving Repr, DecidableEq

/-- A settings file: how reports call it, and what stands at its path. -/
structure File where
  path : String
  content : Content
  deriving Repr, DecidableEq

/-- Name of the kind of a value in reports. -/
def kindOf : Value → String
  | .null => "NoneType"
  | .boolean _ => "bool"
  | .integer _ => "int"
  | .float _ => "float"
  | .text _ => "str"
  | .list _ => "list"
  | .record _ => "dict"

/-- Why a file sets nothing. -/
inductive FileError where
  /-- The file cannot be read. -/
  | unreadable (path : String)
  /-- The file holds a value of another kind than a mapping. -/
  | notMapping (path kind : String)
  deriving Repr, DecidableEq

namespace FileError

/-- What is reported. -/
def failure : FileError → Failure
  | .unreadable path => .setting ("Invalid YAML in " ++ path) none .null
  | .notMapping path kind =>
      .setting ("Config file " ++ path ++ " must contain a mapping") none (.text kind)

end FileError

/-- What makes the program break off without a report of its own. -/
inductive Breakdown where
  /-- A variable cannot be read. -/
  | environment (error : Environment.Unreadable)
  /-- A directory stands where a file should. -/
  | directory (path : String)
  /-- The reader of documents fails. -/
  | reading (cause : Yaml.ReadFailure)
  /-- A file has a key that is no text. -/
  | oddKey
  /-- The reader of documents does not cover a file: nothing is known of it. -/
  | uncovered (path : String)
  deriving Repr

namespace Breakdown

/-- What is known of the cause. -/
def message : Breakdown → String
  | .environment error => error.message
  | .directory path => "[Errno 21] Is a directory: " ++ Text.showQuoted path
  | .reading cause => cause.message
  | .oddKey => "keywords must be strings"
  | .uncovered path => "Not covered: " ++ path

end Breakdown

/-- Why settings cannot be loaded. -/
inductive LoadError where
  | file (error : FileError)
  /-- The first issue of the merged settings. -/
  | invalid (issue : Issue)
  | breakdown (cause : Breakdown)
  deriving Repr

/-- The fields that a file sets, if all its keys are texts. -/
def File.fieldsBy?
    (readers : Readers)
    (file : File) :
    Except LoadError (Option Value.Fields) :=
  match file.content with
  | .absent => .ok (some [])
  | .directory => .error (.breakdown (.directory file.path))
  | .document text =>
      match readers.document text with
      | .error .malformed => .error (.file (.unreadable file.path))
      | .error .uncovered => .error (.breakdown (.uncovered file.path))
      | .error .oddKey => .ok none
      | .error (.failure cause) => .error (.breakdown (.reading cause))
      | .ok .null => .ok (some [])
      | .ok (.record fields) => .ok (some fields)
      | .ok value => .error (.file (.notMapping file.path (kindOf value)))

/-- Where settings come from. -/
structure Sources where
  user : File
  project : File
  environment : Environment
  deriving Repr

/-- The merged fields of all layers; keys are looked at when everything is read. -/
def Sources.fieldsBy
    (readers : Readers)
    (sources : Sources) :
    Except LoadError Value.Fields :=
  match sources.project.fieldsBy? readers with
  | .error error => .error error
  | .ok project? =>
      match sources.user.fieldsBy? readers with
      | .error error => .error error
      | .ok user? =>
          match sources.environment.fieldsBy readers.json? with
          | .error error => .error (.breakdown (.environment error))
          | .ok environment =>
              match user?, project? with
              | some user, some project => .ok (user.layer (project.layer environment))
              | _, _ => .error (.breakdown .oddKey)

/-- Load the settings with some readers. -/
def loadBy
    (readers : Readers)
    (sources : Sources) :
    Except LoadError Settings :=
  match sources.fieldsBy readers with
  | .error error => .error error
  | .ok fields =>
      match ofFields fields with
      | .ok settings => .ok settings
      | .error issues => .error (.invalid issues.first)

/-- The fields that a file sets, if all its keys are texts. -/
def File.fields? (file : File) : Except LoadError (Option Value.Fields) :=
  file.fieldsBy? readers

/-- The merged fields of all layers. -/
def Sources.fields (sources : Sources) : Except LoadError Value.Fields :=
  sources.fieldsBy readers

/-- Load the settings. -/
def load (sources : Sources) : Except LoadError Settings :=
  loadBy readers sources

/-- Name of the project's file. -/
def projectFileName : String :=
  "outrider.yaml"

/-- Path of the user's file below the home directory. -/
def userFilePath : String :=
  ".config/outrider/config.yaml"

/-- A path without empty parts and without parts that stay in place. -/
def normalizePath (path : String) : String :=
  let parts := (path.splitOn "/").filter fun part => part ≠ "" ∧ part ≠ "."
  let joined := String.intercalate "/" parts
  if path.startsWith "/" then "/" ++ joined
  else if joined = "" then "."
  else joined

end WorkflowConditions.Settings
