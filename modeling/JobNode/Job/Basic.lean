import JobNode.AccountId
import JobNode.Dict
import JobNode.Error
import JobNode.Instant.Basic
import JobNode.Job.Status
import JobNode.Uuid

/-!
# Jobs

A job is a unit of work that an account owns.  It carries an overall status, the status of its
named tasks, values its steps leave for each other, and a log that only grows.

* `transition?_eq_some_iff`: the overall status leaves `pending` once, and nothing else moves it.
-/

namespace JobNode

/-- The name of a job, unique within an account. -/
structure JobId where
  uuid : Uuid
  deriving DecidableEq

namespace JobId

instance : Inhabited JobId := ⟨⟨default⟩⟩

/-- The written form. -/
def toText (id : JobId) : String := id.uuid.toText

/-- Why a text names no job; it keeps the text. -/
structure ParseError where
  text : String
  cause : Uuid.ParseError

/-- The message of the error. -/
def ParseError.message (e : ParseError) : String :=
  "invalid job id '" ++ e.text ++ "': " ++ e.cause.message

/-- Read a job identifier. -/
def parse (s : String) : Except ParseError JobId :=
  match Uuid.parse s with
  | .ok uuid => .ok ⟨uuid⟩
  | .error cause => .error ⟨s, cause⟩

end JobId

/-- An entry of a job's log. -/
structure LogEntry where
  taskName : String
  message : String
  createdAt : Instant
  deriving DecidableEq

/-- A value that a step of a job leaves for later ones. -/
structure StoredValue where
  key : String
  bytes : List UInt8
  deriving DecidableEq

/-- A tracked unit of work. -/
structure Job where
  id : JobId
  account : AccountId
  description : String
  status : Status
  taskStatus : Dict Status
  values : Dict StoredValue
  logs : List LogEntry
  createdAt : Instant
  deriving DecidableEq

/-- What a caller that polls a job is told. -/
structure StatusReport where
  jobId : JobId
  status : Status
  /-- The message of the last log entry, empty without one. -/
  message : String
  /-- The time of the last log entry, or of the creation without one. -/
  lastUpdated : Instant
  deriving DecidableEq

namespace Job

/-- A new pending job. -/
def create (id : JobId) (account : AccountId) (description : String) (now : Instant) : Job where
  id := id
  account := account
  description := description
  status := .pending
  taskStatus := .empty
  values := .empty
  logs := []
  createdAt := now

/-- The job with another overall status; none unless it is pending and the status is terminal. -/
def transition? (job : Job) (target : Status) : Option Job :=
  match job.status, target with
  | .pending, .success => some { job with status := .success }
  | .pending, .failed => some { job with status := .failed }
  | _, _ => none

/-- The job with another overall status; a change that is not allowed is an error that names both. -/
def transition (job : Job) (target : Status) : Except Error Job :=
  match job.transition? target with
  | some next => .ok next
  | none => .error (.invalidTransition job.status.toText target.toText)

/-- The job with another overall status where that is allowed, else the job as it is. -/
def transitionIfAllowed (job : Job) (target : Status) : Job :=
  (job.transition? target).getD job

/-- The job with one more log entry. -/
def addLog (job : Job) (taskName message : String) (now : Instant) : Job :=
  { job with logs := job.logs ++ [⟨taskName, message, now⟩] }

/-- The last log entry. -/
def lastLog? (job : Job) : Option LogEntry :=
  job.logs.getLast?

/-- The message of the last log entry, empty without one. -/
def lastMessage (job : Job) : String :=
  match job.lastLog? with
  | some entry => entry.message
  | none => ""

/-- The job with a value stored under a key. -/
def setValue (job : Job) (key : String) (bytes : List UInt8) : Job :=
  { job with values := job.values.insert key ⟨key, bytes⟩ }

/-- The bytes stored under a key. -/
def value? (job : Job) (key : String) : Option (List UInt8) :=
  (job.values.get? key).map (·.bytes)

/-- The job with the status of one of its tasks recorded. -/
def setTaskStatus (job : Job) (taskName : String) (status : Status) : Job :=
  { job with taskStatus := job.taskStatus.insert taskName status }

/-- What a caller that polls the job is told. -/
def statusReport (job : Job) : StatusReport where
  jobId := job.id
  status := job.status
  message := job.lastMessage
  lastUpdated :=
    match job.lastLog? with
    | some entry => entry.createdAt
    | none => job.createdAt

theorem transition?_eq_some_iff {job next : Job} {target : Status} :
    job.transition? target = some next ↔
      job.status = .pending ∧ target.isTerminal = true ∧ next = { job with status := target } := by
  cases hs : job.status <;> cases target <;>
    simp [transition?, hs, Status.isTerminal, eq_comm]

end Job

end JobNode
