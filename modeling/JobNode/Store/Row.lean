import JobNode.Error
import JobNode.Job.Record

/-!
# Rows of the job table

A row holds the record of a job as JSON text, and beside it the columns that queries look at: the
key, the description, the status and the time of creation in microseconds.
-/

namespace JobNode

/-- A row of the job table; every column is text. -/
structure Row where
  accountId : String
  jobId : String
  description : String
  status : String
  /-- The record of the job as JSON text. -/
  data : String
  createdAt : String
  updatedAt : String
  deriving DecidableEq

namespace Row

/-- The row of a job that is saved at some time. -/
def ofJob (job : Job) (now : Instant) : Row where
  accountId := job.account.toText
  jobId := job.id.toText
  description := job.description
  status := job.status.toText
  data := job.toText
  createdAt := job.createdAt.toMicrosText
  updatedAt := now.toMicrosText

/-- The job that a row holds. -/
def job (r : Row) : Except Error Job :=
  (Job.parse r.data).mapError fun _ => .serialization .malformed

/-- The key of a row. -/
def key (r : Row) : String × String := (r.accountId, r.jobId)

/-- The row with the columns that a later save of its job changes. -/
def update (old new : Row) : Row :=
  { old with
    description := new.description
    status := new.status
    data := new.data
    updatedAt := new.updatedAt }

end Row

end JobNode
