import JobNode.Error
import JobNode.Job.Basic

/-!
# Keys of jobs

A job is filed under its account and its identifier.  Callers name both in text, and a text that
names nothing is a validation error.
-/

namespace JobNode

/-- The error for a text that names no account. -/
def AccountId.ParseError.toError (e : AccountId.ParseError) : Error := .validation e.message

/-- Read the account that a caller names. -/
def AccountId.read (s : String) : Except Error AccountId :=
  (AccountId.parse s).mapError AccountId.ParseError.toError

/-- The error for a text that names no job. -/
def JobId.ParseError.toError (e : JobId.ParseError) : Error := .validation e.message

/-- Read the job that a caller names. -/
def JobId.read (s : String) : Except Error JobId :=
  (JobId.parse s).mapError JobId.ParseError.toError

/-- What a job is filed under. -/
structure JobKey where
  account : AccountId
  id : JobId
  deriving DecidableEq

/-- The key of a job. -/
def Job.key (job : Job) : JobKey := ⟨job.account, job.id⟩

end JobNode
