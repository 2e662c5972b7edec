import JobNode.Startup.Boot

/-!
# The program

Starts a node in the working directory, with the environment of the process and the environment
file, and runs it until its input has a line or ends.  Everything that is decided is decided by
`Startup.boot`; this module only reads and writes.
-/

namespace JobNode

/-- Variables of the environment of the process. -/
def readEnvironment (names : List String) : IO (List (String × String)) :=
  names.filterMapM fun name => return (← IO.getEnv name).map fun value => (name, value)

/-- The text of the environment file, if it can be read. -/
def readEnvironmentFile : IO (Option String) := do
  try return some (← IO.FS.readFile ".env")
  catch _ => return none

/-- Make an entry that is missing; a file is made empty. -/
def makeEntry (path : List String) : Startup.FileKind → IO Unit
  | .directory => IO.FS.createDirAll ("/" ++ "/".intercalate path)
  | .blank => do
    let _ ← IO.FS.Handle.mk ("/" ++ "/".intercalate path) .append
  | _ => return

/-- How a start ends. -/
inductive StartOutcome where
  | ready
  | refused (message : String)
  | crashed

/-- Start the node and make the files of the start. -/
def startNode : IO StartOutcome := do
  let text ← readEnvironmentFile
  let names := Startup.variableNames ++ (text.map Environment.mentioned).getD []
  let found ← readEnvironment names
  let files := (Startup.Files.ofWorking (← IO.currentDir).toString).withText ".env" text
  let (made, result) := Startup.boot ⟨fun name => found.lookup name, text, files⟩
  for (path, kind) in made.newSince files do
    makeEntry path kind
  match result with
  | some (.ok _) => return .ready
  | some (.error e) => return .refused e.message
  | none => return .crashed

end JobNode

/-- Run a node; the exit code is 1 if it does not start, and 101 if it does not live to say why. -/
def main : IO UInt32 := do
  match ← JobNode.startNode.toBaseIO with
  | .ok .ready =>
    let _ ← (← IO.getStdin).getLine
    return 0
  | .ok (.refused message) =>
    IO.eprintln ("Error: " ++ message)
    return 1
  | .ok .crashed => return 101
  | .error e =>
    IO.eprintln ("Error: " ++ toString e)
    return 1
