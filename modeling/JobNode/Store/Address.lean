import JobNode.Error
import JobNode.Text.Percent
import JobNode.Text.Quoted

/-!
# Addresses of databases

The address of a database names a file, or memory, and may carry parameters after a question mark.
-/

namespace JobNode

/-- Where a database is kept. -/
structure DatabaseAddress where
  /-- The path of the file. -/
  path : String
  inMemory : Bool := false
  readOnly : Bool := false
  /-- Nobody changes the file, so it needs no lock. -/
  immutable : Bool := false
  /-- The module that does the file access, if the address names one. -/
  fileModule : Option String := none
  deriving DecidableEq

namespace DatabaseAddress

/-- The characters after every leading copy of a prefix. -/
def dropAll (mark : List Char) : Nat → List Char → List Char
  | 0, cs => cs
  | fuel + 1, cs =>
    if mark.isPrefixOf cs then dropAll mark fuel (cs.drop mark.length) else cs

/-- The characters after the scheme, however often it is written. -/
def dropScheme (cs : List Char) : List Char :=
  let cs := dropAll "sqlite://".toList cs.length cs
  dropAll "sqlite:".toList cs.length cs

/-- The text of percent-encoded characters. -/
def decodePart (cs : List Char) : String :=
  Text.ofUtf8Lossy (Text.percentDecode (Text.utf8 cs))

/-- The parameters between ampersands, as names and values. -/
def parameters (cs : List Char) : List (String × String) :=
  ((cs.splitOn '&').filter (· ≠ [])).map fun part =>
    let spaced := part.map fun c => if c = '+' then ' ' else c
    let name := spaced.takeWhile (· != '=')
    (decodePart name, decodePart (spaced.drop (name.length + 1)))

/-- A parameter has a value that it cannot have. -/
def badValue (name value : String) : StorageError :=
  .configuration ("unknown value " ++ Text.quoted value ++ " for `" ++ name ++ "`")

/-- The address with a parameter taken into account. -/
def setParameter (a : DatabaseAddress) (name value : String) :
    Except StorageError DatabaseAddress :=
  if name = "mode" then
    if value = "ro" then .ok { a with readOnly := true }
    else if value = "rw" ∨ value = "rwc" then .ok a
    else if value = "memory" then .ok { a with inMemory := true }
    else .error (badValue name value)
  else if name = "cache" then
    if value = "private" ∨ value = "shared" then .ok a else .error (badValue name value)
  else if name = "immutable" then
    if value = "true" ∨ value = "1" then .ok { a with immutable := true }
    else if value = "false" ∨ value = "0" then .ok { a with immutable := false }
    else .error (badValue name value)
  else if name = "vfs" then .ok { a with fileModule := some value }
  else
    .error (.configuration
      ("unknown query parameter `" ++ name ++ "` while parsing connection URL"))

/-- Take parameters into account, in order. -/
def setParameters (a : DatabaseAddress) : List (String × String) →
    Except StorageError DatabaseAddress
  | [] => .ok a
  | (name, value) :: rest =>
    match a.setParameter name value with
    | .ok a => a.setParameters rest
    | .error e => .error e

/-- The database before the parameters. -/
def ofPath (cs : List Char) : Except StorageError DatabaseAddress :=
  if cs = ":memory:".toList then .ok { path := "", inMemory := true }
  else
    let bytes := Text.percentDecode (Text.utf8 cs)
    match Text.utf8Fault? bytes with
    | some fault => .error (.configuration fault.message)
    | none => .ok { path := (Text.ofUtf8? bytes).getD "" }

/-- Read an address. -/
def parse (s : String) : Except StorageError DatabaseAddress :=
  let cs := dropScheme s.toList
  let path := cs.takeWhile (· != '?')
  match ofPath path with
  | .error e => .error e
  | .ok a => a.setParameters (parameters (cs.drop (path.length + 1)))

end DatabaseAddress

end JobNode
