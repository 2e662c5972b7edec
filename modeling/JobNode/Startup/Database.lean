import JobNode.Error
import JobNode.Startup.Files
import JobNode.Store.Address
import JobNode.Store.FileUri

/-!
# Opening the database

The address of a database leads to memory, to a temporary place, or to a file, which is made when it
is missing unless the address asks to read only.  The database is then prepared and its table is
made.  A file that cannot keep a database is found out by the first write: while the database is
prepared if it keeps a log beside the file, and otherwise when the table is made.
-/

namespace JobNode.Startup

/-! ## Faults of the engine -/

/-- Why the engine fails. -/
inductive EngineFault where
  /-- A request that makes no sense. -/
  | badRequest (text : String)
  | accessDenied (mode : String)
  | readOnly
  | noRoom
  | cannotOpen
  | notADatabase
  | unreadable
  | unsynced
  | unlocked
  deriving DecidableEq

namespace EngineFault

/-- The result code of the fault. -/
def code : EngineFault → String
  | badRequest _ => "1"
  | accessDenied _ => "3"
  | readOnly => "8"
  | noRoom => "13"
  | cannotOpen => "14"
  | notADatabase => "26"
  | unreadable => "266"
  | unsynced => "1034"
  | unlocked => "3850"

/-- What the engine says of the fault. -/
def text : EngineFault → String
  | badRequest text => text
  | accessDenied mode => "access mode not allowed: " ++ mode
  | readOnly => "attempt to write a readonly database"
  | noRoom => "database or disk is full"
  | cannotOpen => "unable to open database file"
  | notADatabase => "file is not a database"
  | unreadable | unsynced | unlocked => "disk I/O error"

/-- The fault as an error of the database. -/
def toStorage (f : EngineFault) : StorageError :=
  .engine (some f.code) ("(code: " ++ f.code ++ ") " ++ f.text)

/-- The fault as an error of making the table. -/
def toMigration (f : EngineFault) : Error :=
  .migration ("while executing migrations: " ++ f.toStorage.message)

end EngineFault

/-! ## Requests -/

/-- How the engine gets at files. -/
inductive FileModule where
  | standard
  /-- One process at a time. -/
  | exclusive
  /-- Without locks. -/
  | unlocked
  /-- A file of its own is the lock. -/
  | lockFile
  /-- Not at all: what it keeps is in memory. -/
  | memory
  deriving DecidableEq

namespace FileModule

/-- The module of a name. -/
def ofName? : String → Option FileModule
  | "unix" => some standard
  | "unix-excl" => some exclusive
  | "unix-none" => some unlocked
  | "unix-dotfile" => some lockFile
  | "memdb" => some memory
  | _ => none

/-- The module of a name that was asked for. -/
def find : Option String → Except EngineFault FileModule
  | none => .ok standard
  | some name =>
    match ofName? name with
    | some module => .ok module
    | none => .error (.badRequest ("no such vfs: " ++ name))

/-- Can a log be kept beside a file? -/
def keepsLog : FileModule → Bool
  | standard | exclusive => true
  | _ => false

end FileModule

/-- What may be done with a database. -/
structure Access where
  readOnly : Bool := false
  writes : Bool := false
  creates : Bool := false
  memory : Bool := false
  deriving DecidableEq

namespace Access

/-- The access as a number: what allows more is greater. -/
def rank (a : Access) : Nat :=
  a.readOnly.toNat + 2 * a.writes.toNat + 4 * a.creates.toNat + 128 * a.memory.toNat

/-- The access that a mode stands for. -/
def ofMode? : String → Option Access
  | "ro" => some { readOnly := true }
  | "rw" => some { writes := true }
  | "rwc" => some { writes := true, creates := true }
  | "memory" => some { memory := true }
  | _ => none

/-- The access that a mode leaves of another; a database in memory is always allowed. -/
def narrow (a : Access) (mode : String) : Except EngineFault Access :=
  match ofMode? mode with
  | none => .error (.badRequest ("no such access mode: " ++ mode))
  | some b =>
    if b.memory ∨ b.rank ≤ a.rank then .ok b else .error (.accessDenied mode)

end Access

/-- What the engine is asked to open. -/
structure DatabaseRequest where
  path : String
  access : Access
  /-- The name of the module that gets at files, if one is named. -/
  moduleName : Option String := none
  immutable : Bool := false
  withoutLock : Bool := false
  deriving DecidableEq

namespace DatabaseRequest

/-- The request with the options of a URI taken into account, in order. -/
def setOptions (r : DatabaseRequest) : List (String × String) →
    Except EngineFault DatabaseRequest
  | [] => .ok r
  | ("vfs", name) :: rest => setOptions { r with moduleName := some name } rest
  | ("cache", value) :: rest =>
    if value = "shared" ∨ value = "private" then r.setOptions rest
    else .error (.badRequest ("no such cache mode: " ++ value))
  | ("mode", mode) :: rest =>
    match r.access.narrow mode with
    | .ok access => setOptions { r with access } rest
    | .error e => .error e
  | _ :: rest => r.setOptions rest

/-- The request of a path that may be a URI. -/
def ofPath (path : String) (access : Access) : Except EngineFault DatabaseRequest :=
  match FileUri.body? path.toList with
  | none => .ok { path, access }
  | some body =>
    match FileUri.ofBody body with
    | .error authority => .error (.badRequest ("invalid uri authority: " ++ authority))
    | .ok uri =>
      let request : DatabaseRequest :=
        { path := uri.path, access,
          immutable := uri.switch "immutable", withoutLock := uri.switch "nolock" }
      request.setOptions uri.options

end DatabaseRequest

/-- The path cannot be handed to the operating system. -/
def zeroInPath : StorageError :=
  .communication "filename passed to SQLite must not contain nul bytes"

/-- The characters before the first zero. -/
def beforeZero (s : String) : String := String.ofList (s.toList.takeWhile (· ≠ '\x00'))

/-- A module is named in a URI, where a blank is written as a plus sign. -/
def moduleNamed (name : String) : String :=
  String.ofList ((beforeZero name).toList.map fun c => if c = ' ' then '+' else c)

/-- The request of an address.  An address with options of its own names the path as it is. -/
def requestOf (a : DatabaseAddress) : Except StorageError DatabaseRequest :=
  let access : Access :=
    { readOnly := a.readOnly, writes := !a.readOnly, creates := !a.readOnly, memory := a.inMemory }
  if a.immutable ∨ a.fileModule.isSome then
    .ok
      { path := beforeZero a.path, access, immutable := a.immutable,
        moduleName := a.fileModule.map moduleNamed }
  else if a.path.toList.contains '\x00' then .error zeroInPath
  else (DatabaseRequest.ofPath a.path access).mapError EngineFault.toStorage

/-! ## Places -/

/-- The most bytes that the place of a database can be written with: others are made beside it. -/
def maxDatabasePlace : Nat := 504

/-- The most bytes that a place can be written with on the way. -/
def maxPlace : Nat := 511

/-- The most bytes of a name that is written with something after it. -/
def maxNameBefore (ending : String) : Nat := maxNameLength - ending.utf8ByteSize

/-- The number of bytes that a place is written with. -/
def writtenLength (place : List String) : Nat :=
  place.foldl (fun n name => n + 1 + name.utf8ByteSize) 0

/-- The place that segments lead to.  A dot-dot takes a name back, whatever it stands for. -/
def databasePlace? (fs : Files) (place : List String) : List String → Option (List String)
  | [] => if place = [] ∨ maxDatabasePlace < writtenLength place then none else some place
  | segment :: rest =>
    if isIdle segment then databasePlace? fs place rest
    else if segment = ".." then databasePlace? fs place.dropLast rest
    else if maxPlace < writtenLength (place ++ [segment]) then none
    else
      match fs.kind? place with
      | none => databasePlace? fs (place ++ [segment]) rest
      | some kind =>
        if kind.isDirectory ∧ ¬ isTooLong segment then
          databasePlace? fs (place ++ [segment]) rest
        else none

/-- The file of a database, which is made if it is missing and may be made. -/
def openPlace (fs : Files) (place : List String) (access : Access) :
    Except EngineFault (Files × FileKind) :=
  match fs.kind? place with
  | some kind =>
    if ¬ kind.isDirectory then .ok (fs, kind)
    else .error (if access.readOnly then .unreadable else .cannotOpen)
  | none =>
    if access.creates ∧ fs.kind? place.dropLast = some .directory then
      .ok (fs.add place .blank, .blank)
    else .error .cannotOpen

/-! ## Opening -/

/-- What comes of a write to a file of some name. -/
def writeFault? (name : String) (kind : FileKind) (readOnly : Bool) : Option EngineFault :=
  if readOnly then some .readOnly
  else if maxNameBefore "-journal" < name.utf8ByteSize then some .cannotOpen
  else
    match kind with
    | .sink => some .unsynced
    | .full => some .noRoom
    | _ => none

/-- Prepare a file for a database and make the table in it. -/
def prepareFile (r : DatabaseRequest) (module : FileModule) (name : String) (kind : FileKind) :
    Except Error Unit :=
  let withoutLock := r.immutable ∨ r.withoutLock
  if module = .lockFile ∧ ¬ withoutLock ∧ maxNameBefore ".lock" < name.utf8ByteSize then
    .error (.storage EngineFault.unlocked.toStorage)
  else if kind = .foreign then .error (.storage EngineFault.notADatabase.toStorage)
  else
    match writeFault? name kind (r.immutable ∨ r.access.readOnly) with
    | none => .ok ()
    | some fault =>
      if module.keepsLog ∧ ¬ withoutLock then .error (.storage fault.toStorage)
      else .error fault.toMigration

/-- Make the table in memory or in a temporary place. -/
def prepareMemory (readOnly : Bool) : Except Error Unit :=
  if readOnly then .error EngineFault.readOnly.toMigration else .ok ()

/-- The most bytes in the path of a database that the module for memory keeps. -/
def maxMemoryPath : Nat := 1016

/-- Open what was asked for: the files after it, and the error if there is one. -/
def openRequest (r : DatabaseRequest) (files : Files) : Files × Except Error Unit :=
  match FileModule.find r.moduleName with
  | .error fault => (files, .error (.storage fault.toStorage))
  | .ok module =>
    if r.access.memory ∨ r.path = "" ∨ r.path = ":memory:" then
      (files, prepareMemory r.access.readOnly)
    else if module = .memory then
      if maxMemoryPath < r.path.utf8ByteSize then
        (files, .error (.storage EngineFault.cannotOpen.toStorage))
      else (files, prepareMemory (r.access.readOnly ∨ r.immutable))
    else
      match databasePlace? files (files.origin r.path) (segments r.path) with
      | none => (files, .error (.storage EngineFault.cannotOpen.toStorage))
      | some place =>
        match openPlace files place r.access with
        | .error fault => (files, .error (.storage fault.toStorage))
        | .ok (files, kind) => (files, prepareFile r module (place.getLast?.getD "") kind)

/-- Open the database of an address given as text. -/
def openDatabase (url : String) (files : Files) : Files × Except Error Unit :=
  match DatabaseAddress.parse url with
  | .error e => (files, .error (.storage e))
  | .ok a =>
    match requestOf a with
    | .error e => (files, .error (.storage e))
    | .ok r => openRequest r files

end JobNode.Startup
