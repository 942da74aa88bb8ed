import WorkflowConditions.Text.Display
import WorkflowConditions.Text.Similarity

namespace WorkflowConditions.CommandLine

/-!
# Options and operands

Arguments are options or operands.  A long option has its value after an equals
sign or in the next argument; short options may be joined, and the last of them
takes the rest of the argument as its value.  Two dashes end the options.
-/

/-- What an option is about. -/
inductive Key where
  | help
  | version
  | config
  | verbose
  | quiet
  | tree
  | format
  | event
  | otherEvents
  deriving Repr, DecidableEq

/-- An option that a command knows. -/
structure OptionSpec where
  key : Key
  /-- Letter of the short form. -/
  short : Option Char
  /-- The long form, with its dashes. -/
  long : String
  takesValue : Bool
  deriving Repr, DecidableEq

/-- An option that was given, with its value if it takes one. -/
structure Given where
  key : Key
  value : String
  deriving Repr, DecidableEq

/-- Why arguments cannot be read. -/
inductive ArgumentError where
  /-- No option has that form; long options may be misspelled. -/
  | unknown (option : String) (suggestions : List String)
  | missingValue (option : String)
  | unwantedValue (option : String)
  deriving Repr, DecidableEq

/-- A complaint, followed by what could have been meant. -/
def withSuggestions
    (complaint : String) :
    List String → String
  | [] => complaint
  | [suggestion] => complaint ++ " Did you mean " ++ Text.showQuoted suggestion ++ "?"
  | suggestions =>
      let sorted := suggestions.mergeSort fun first second => !(second < first)
      complaint ++ " (Did you mean one of: " ++
        String.intercalate ", " (sorted.map Text.showQuoted) ++ "?)"

namespace ArgumentError

/-- What is reported. -/
def message : ArgumentError → String
  | .unknown option suggestions =>
      withSuggestions ("No such option " ++ Text.showQuoted option ++ ".") suggestions
  | .missingValue option => "Option " ++ Text.showQuoted option ++ " requires an argument."
  | .unwantedValue option => "Option " ++ Text.showQuoted option ++ " does not take a value."

/-- Whether the report shows how the command is used. -/
def showsUsage : ArgumentError → Bool
  | .unknown .. => true
  | _ => false

end ArgumentError

/-- Arguments that have been read. -/
structure Arguments where
  /-- Options in the order in which they were given. -/
  options : List Given
  operands : List String
  deriving Repr, DecidableEq

namespace Arguments

/-- No arguments. -/
def empty : Arguments :=
  ⟨[], []⟩

/-- Put options in front. -/
def withOptions
    (given : List Given)
    (arguments : Arguments) :
    Arguments :=
  { arguments with options := given ++ arguments.options }

/-- Put an operand in front. -/
def withOperand
    (operand : String)
    (arguments : Arguments) :
    Arguments :=
  { arguments with operands := operand :: arguments.operands }

/-- The last value given for an option. -/
def last?
    (arguments : Arguments)
    (key : Key) :
    Option String :=
  ((arguments.options.filter (·.key == key)).getLast?).map (·.value)

/-- All values given for an option. -/
def all
    (arguments : Arguments)
    (key : Key) :
    List String :=
  (arguments.options.filter (·.key == key)).map (·.value)

/-- Whether an option was given. -/
def has
    (arguments : Arguments)
    (key : Key) :
    Bool :=
  arguments.options.any (·.key == key)

end Arguments

/-- What an option consists of: options that are complete, and one that needs the next argument. -/
structure Reading where
  complete : List Given
  /-- The option that takes the next argument, and how it was written. -/
  pending : Option (Key × String)
  deriving Repr, DecidableEq

/-- Read joined short options. -/
def readShort
    (specs : List OptionSpec) :
    List Char → Except ArgumentError Reading
  | [] => .ok ⟨[], none⟩
  | letter :: rest =>
      let option := String.ofList ['-', letter]
      match specs.find? (·.short == some letter) with
      | none => .error (.unknown option [])
      | some spec =>
          if spec.takesValue then
            match rest with
            | [] => .ok ⟨[], some (spec.key, option)⟩
            | _ => .ok ⟨[⟨spec.key, String.ofList rest⟩], none⟩
          else
            match readShort specs rest with
            | .error error => .error error
            | .ok reading =>
                .ok { reading with complete := ⟨spec.key, ""⟩ :: reading.complete }

/-- The form of a long option and the value after its equals sign. -/
def splitValue (argument : List Char) : List Char × Option (List Char) :=
  let form := argument.takeWhile (· != '=')
  match argument.drop form.length with
  | [] => (form, none)
  | _ :: value => (form, some value)

/-- Read an argument that is an option. -/
def readOption
    (specs : List OptionSpec)
    (argument : List Char) :
    Except ArgumentError Reading :=
  let (form, value) := splitValue argument
  let option := String.ofList form
  match specs.find? (·.long == option) with
  | some spec =>
      match spec.takesValue, value with
      | true, some value => .ok ⟨[⟨spec.key, String.ofList value⟩], none⟩
      | true, none => .ok ⟨[], some (spec.key, option)⟩
      | false, some _ => .error (.unwantedValue option)
      | false, none => .ok ⟨[⟨spec.key, ""⟩], none⟩
  | none =>
      match argument with
      | '-' :: '-' :: _ =>
          .error (.unknown option (Text.closeMatches option (specs.map (·.long))))
      | _ => readShort specs (argument.drop 1)

/-- Whether an argument is an option. -/
def isOption (argument : String) : Bool :=
  match argument.toList with
  | '-' :: _ :: _ => true
  | _ => false

/--
Read arguments.  An option that needs a value takes the next argument, whatever it
is.  When operands and options do not mix, the first operand ends the options.
-/
def readArguments
    (specs : List OptionSpec)
    (mixed : Bool) :
    (pending : Option (Key × String)) → List String → Except ArgumentError Arguments
  | none, [] => .ok .empty
  | some (_, option), [] => .error (.missingValue option)
  | some (key, _), value :: rest =>
      (readArguments specs mixed none rest).map (Arguments.withOptions [⟨key, value⟩])
  | none, argument :: rest =>
      if argument = "--" then .ok ⟨[], rest⟩
      else if isOption argument then
        match readOption specs argument.toList with
        | .error error => .error error
        | .ok reading =>
            (readArguments specs mixed reading.pending rest).map
              (Arguments.withOptions reading.complete)
      else if mixed then
        (readArguments specs mixed none rest).map (Arguments.withOperand argument)
      else .ok ⟨[], argument :: rest⟩

end WorkflowConditions.CommandLine
