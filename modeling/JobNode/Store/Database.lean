import JobNode.Store.Basic

/-!
# Databases in files

A database in a file outlives its connections.  Scripts prepare it: each makes what it is about
unless it is there, and runs once, for the database keeps a ledger of the versions that have run.
Questions are answered while there are connections, and by a table only.
-/

namespace JobNode

/-- A database in a file. -/
structure Database where
  /-- The versions of the scripts that have run, in order. -/
  ledger : List Nat
  /-- The job table, once it was made. -/
  jobs? : Option Table
  /-- There are connections. -/
  isOpen : Bool

namespace Database

/-- A new file that was just opened. -/
def blank : Database := ⟨[], none, true⟩

/-! ## Scripts -/

/-- A script that prepares a database. -/
structure Script where
  version : Nat
  /-- What it makes of the job table. -/
  run : Option Table → Option Table

/-- Make the job table if there is none. -/
def createJobs : Script := ⟨20260101000000, fun jobs? => some (jobs?.getD .empty)⟩

/-- All scripts, the oldest first. -/
def scripts : List Script := [createJobs]

/-- Run a script that has not run. -/
def applyScript (d : Database) (s : Script) : Database :=
  if s.version ∈ d.ledger then d
  else { d with ledger := d.ledger ++ [s.version], jobs? := s.run d.jobs? }

/-- Scripts need a connection. -/
def notPrepared : Error :=
  .migration ("while executing migrations: " ++ StorageError.closed.message)

/-- Run the scripts that have not run. -/
def migrate (d : Database) : Except Error Database :=
  if d.isOpen then .ok (scripts.foldl applyScript d) else .error notPrepared

/-! ## Connections -/

/-- Close the connections. -/
def close (d : Database) : Database := { d with isOpen := false }

/-- Open the file, which keeps what it has. -/
def reopen (d : Database) : Database := { d with isOpen := true }

/-! ## Jobs -/

/-- The scripts have not run. -/
def noTable : Error := .storage (.engine (some "1") "(code: 1) no such table: jobs")

/-- The job table, where it can be asked. -/
def table (d : Database) : Except Error Table :=
  if d.isOpen then
    match d.jobs? with
    | some jobs => .ok jobs
    | none => .error noTable
  else .error Store.unavailable

/-- The job under a key. -/
def get (d : Database) (key : JobKey) : Except Error Job := do
  let jobs ← d.table
  (Store.database jobs true).get key

/-- Keep a job under its own key. -/
def save (d : Database) (job : Job) (now : Instant) : Except Error Database := do
  let jobs ← d.table
  .ok { d with jobs? := some (jobs.save job now) }

/-- The jobs of an account. -/
def list (d : Database) (account : AccountId) : Except Error (List Job) := do
  let jobs ← d.table
  jobs.list account

end Database

end JobNode
