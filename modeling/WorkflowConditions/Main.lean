import WorkflowConditions.CommandLine.Run

namespace WorkflowConditions.Program

/-!
# The program

What lies around the pure run: files and variables are read before it, and what
it yields is printed after it.
-/

/-- The text of a file, if it can be read. -/
def content? (path : String) : IO (Option String) := do
  try
    return some (← IO.FS.readFile path)
  catch _ =>
    return none

/-- What stands at a path. -/
def content (path : String) : IO Settings.Content := do
  match ← content? path with
  | some text => return .document text
  | none =>
      try
        if ← (← IO.FS.realPath path).isDir then return .directory else return .absent
      catch _ =>
        return .absent

/-- A settings file at a path. -/
def file (path : String) : IO Settings.File := do
  return ⟨path, ← content path⟩

/-- A variable and its value. -/
def assignment? (entry : String) : Option (String × String) :=
  let name := String.ofList (entry.toList.takeWhile (· != '='))
  if name.length < entry.length then
    some (name, String.ofList (entry.toList.drop (name.length + 1)))
  else none

/-- The variables that the program was started with. -/
def environment : IO Environment := do
  let entries := ((← content? "/proc/self/environ").getD "").splitOn "\x00"
  return entries.filterMap assignment?

/-- What the program finds around it. -/
def workspace (arguments : List String) : IO CommandLine.Workspace := do
  let directory ← IO.currentDir
  let home := (← IO.getEnv "HOME").getD ""
  let path? :=
    match CommandLine.Command.program.read arguments with
    | .ok arguments => CommandLine.namedPath? arguments
    | .error _ => none
  let named ←
    match path? with
    | none => pure .absent
    | some path => content path
  return {
    userFile := ← file (home ++ "/" ++ Settings.userFilePath)
    projectFile := ← file (directory.toString ++ "/" ++ Settings.projectFileName)
    named := fun path => if path? = some path then named else .absent
    environment := ← environment }

/-- Print what a run yields. -/
def print (outcome : CommandLine.Outcome) : IO Unit := do
  for record in outcome.records do
    IO.eprintln (Json.line (.record record))
  IO.print outcome.output
  IO.eprint outcome.errors
  match outcome.brokeOff with
  | none => return ()
  | some error => IO.eprintln error.message

end WorkflowConditions.Program

/-- Run the program on its arguments. -/
def main (arguments : List String) : IO UInt32 := do
  let workspace ← WorkflowConditions.Program.workspace arguments
  let outcome := WorkflowConditions.CommandLine.run workspace arguments
  WorkflowConditions.Program.print outcome
  return outcome.exitCode.toUInt32
