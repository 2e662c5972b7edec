import JobNode.Text.Basic

/-!
# Files and directories

As much of a file system as the start of the node can tell apart: which paths exist, which of them
are directories, and what a file holds as far as a database engine can see.  A place is the list of
the names that lead to it from the root.  A path that does not start with a slash is taken from the
working directory.
-/

namespace JobNode.Startup

/-- Why a path cannot be made a directory. -/
inductive FileError where
  | notPermitted
  | noSuchEntry
  | entryExists
  | notADirectory
  | nameTooLong
  /-- The path has a zero byte, which ends a path. -/
  | zeroByte
  deriving DecidableEq

/-- The message of the error. -/
def FileError.message : FileError → String
  | notPermitted => "Operation not permitted (os error 1)"
  | noSuchEntry => "No such file or directory (os error 2)"
  | entryExists => "File exists (os error 17)"
  | notADirectory => "Not a directory (os error 20)"
  | nameTooLong => "File name too long (os error 36)"
  | zeroByte => "file name contained an unexpected NUL byte"

/-- What a place can hold. -/
inductive FileKind where
  | directory
  /-- A directory in which nothing can be made. -/
  | sealed (refusal : FileError)
  /-- A file with nothing in it. -/
  | blank
  /-- A file that holds something other than a database. -/
  | foreign
  /-- A device that has nothing to read and keeps nothing that is written. -/
  | sink
  /-- A device that has no room for what is written. -/
  | full
  deriving DecidableEq

/-- Does the kind hold other entries? -/
def FileKind.isDirectory : FileKind → Bool
  | directory | sealed _ => true
  | _ => false

/-- The places that hold something, the root aside, and the working directory. -/
structure Files where
  working : List String
  entries : List (List String × FileKind)
  deriving DecidableEq

/-- The most bytes that a name can have. -/
def maxNameLength : Nat := 255

/-- The most bytes that a path can have. -/
def maxPathLength : Nat := 4095

/-- Is the name longer than a name can be? -/
def isTooLong (name : String) : Bool := maxNameLength < name.utf8ByteSize

/-- What stands between the slashes of a path. -/
def segments (path : String) : List String :=
  (path.toList.splitOn '/').map String.ofList

/-- A segment that leaves one where one is. -/
def isIdle (segment : String) : Bool := segment = "" || segment = "."

namespace Files

/-- What is found at a place. -/
def kind? (fs : Files) (place : List String) : Option FileKind :=
  if place = [] then some .directory
  else (fs.entries.find? fun e => e.1 = place).map (·.2)

/-- Add an entry. -/
def add (fs : Files) (place : List String) (kind : FileKind) : Files :=
  { fs with entries := fs.entries ++ [(place, kind)] }

/-- Where a path starts. -/
def origin (fs : Files) (path : String) : List String :=
  if path.toList.head? = some '/' then [] else fs.working

/-! ## Making directories -/

/-- Enter one directory after the other. -/
def enter (fs : Files) (place : List String) : List String → Except FileError (List String)
  | [] => .ok place
  | segment :: rest =>
    if isIdle segment then fs.enter place rest
    else if segment = ".." then fs.enter place.dropLast rest
    else if isTooLong segment then .error .nameTooLong
    else
      match fs.kind? (place ++ [segment]) with
      | none => .error .noSuchEntry
      | some kind =>
        if kind.isDirectory then fs.enter (place ++ [segment]) rest else .error .notADirectory

/-- Make an entry of a directory a directory. -/
def makeEntry (fs : Files) (place : List String) (name : String) : Except FileError Files :=
  if name = "." ∨ name = ".." then .error .entryExists
  else if isTooLong name then .error .nameTooLong
  else if (fs.kind? (place ++ [name])).isSome then .error .entryExists
  else
    match fs.kind? place with
    | some (.sealed refusal) => .error refusal
    | _ => .ok (fs.add (place ++ [name]) .directory)

/-- Make the last segment of a path a directory. -/
def makeDirectory (fs : Files) (origin path : List String) : Except FileError Files := do
  let path := (path.reverse.dropWhile (· = "")).reverse
  let place ← fs.enter origin path.dropLast
  fs.makeEntry place (path.getLast?.getD ".")

/-- Make a directory that may be there already. -/
def ensureDirectory (fs : Files) (origin path : List String) : Except FileError Files :=
  match fs.makeDirectory origin path with
  | .ok fs => .ok fs
  | .error e =>
    if e = .entryExists ∧ (fs.enter origin path).isOk then .ok fs else .error e

/-- Make the first of several directories, and where it has nothing to lie in, first the others.
What was made stays when something cannot be made. -/
def ensureAll (fs : Files) (origin : List String) :
    List (List String) → Files × Except FileError Unit
  | [] => (fs, .ok ())
  | path :: outer =>
    match fs.ensureDirectory origin path with
    | .ok fs => (fs, .ok ())
    | .error .noSuchEntry =>
      match fs.ensureAll origin outer with
      | (fs, .error e) => (fs, .error e)
      | (fs, .ok ()) =>
        match fs.ensureDirectory origin path with
        | .ok fs => (fs, .ok ())
        | .error e => (fs, .error e)
    | .error e => (fs, .error e)

/-- A path, and after it the directories that it lies in, the inner ones first. -/
def ancestry (path : List String) : List (List String) :=
  let starts := (List.range path.length).map fun n => path.take (n + 1)
  match (starts.filter fun start => !isIdle (start.getLast?.getD "")).reverse with
  | [] => []
  | _ :: outer => path :: outer

/-- Make a directory and those it lies in. -/
def createDirectory (fs : Files) (path : String) : Files × Except FileError Unit :=
  if path.toList.contains '\x00' then (fs, .error .zeroByte)
  else if maxPathLength < path.utf8ByteSize then (fs, .error .nameTooLong)
  else fs.ensureAll (fs.origin path) (ancestry (segments path))

/-! ## Machines -/

/-- A machine with the usual directories and nothing in the working directory. -/
def usual : Files where
  working := ["tmp", "work"]
  entries :=
    ([["bin"], ["boot"], ["dev"], ["dev", "shm"], ["etc"], ["home"], ["lib"], ["media"], ["mnt"],
        ["opt"], ["root"], ["run"], ["sbin"], ["srv"], ["tmp"], ["tmp", "work"], ["usr"],
        ["usr", "bin"], ["usr", "lib"], ["usr", "local"], ["usr", "share"], ["var"],
        ["var", "cache"], ["var", "lib"], ["var", "log"], ["var", "tmp"]].map
      fun place => (place, .directory)) ++
    [(["proc"], .sealed .noSuchEntry), (["sys"], .sealed .notPermitted),
      (["dev", "pts"], .sealed .notPermitted), (["dev", "full"], .full)] ++
    (["null", "zero", "random", "urandom"].map fun name => (["dev", name], .sink)) ++
    ["group", "hostname", "hosts", "os-release", "passwd", "profile", "resolv.conf", "shadow"].map
      fun name => (["etc", name], .foreign)

/-- A machine with the usual directories that is used from some directory. -/
def ofWorking (path : String) : Files :=
  let working := (segments path).filter (!isIdle ·)
  let above := (List.range working.length).map fun n => (working.take (n + 1), FileKind.directory)
  { working, entries := usual.entries ++ above }

/-- The files with a text in a file of the working directory, if there is such a text. -/
def withText (fs : Files) (name : String) : Option String → Files
  | some text => fs.add (fs.working ++ [name]) (if text = "" then .blank else .foreign)
  | none => fs

/-- The entries that were made since some earlier time, in order. -/
def newSince (fs earlier : Files) : List (List String × FileKind) :=
  fs.entries.drop earlier.entries.length

/-- The names in the working directory. -/
def workingNames (fs : Files) : List String :=
  fs.entries.filterMap fun e => if e.1.dropLast = fs.working then e.1.getLast? else none

end Files

end JobNode.Startup
