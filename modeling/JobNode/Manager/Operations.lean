import JobNode.Manager.Procedure

/-!
# Operations on jobs

What the manager does with the store on behalf of its callers: reading a job, recording the status
of a task or a value, and creating or resuming the job of a call.  Every change reads the whole
record and saves the whole record.
-/

namespace JobNode.Manager

open Procedure

/-- Read a job. -/
def getJob (key : JobKey) : Procedure (Except Error Job) := .get key .done

/-- What a caller that polls a job is told. -/
def getStatus (key : JobKey) : Procedure (Except Error StatusReport) :=
  .get key fun answer => .done (answer.map Job.statusReport)

/-- Read a job and save what becomes of it, with the time of the change. -/
def change (key : JobKey) (f : Instant → Job → Job) : Procedure (Except Error Unit) :=
  .get key fun
    | .error e => .done (.error e)
    | .ok job => .now fun t => .save (f t job) .done

/-- Store a value under a key of a job. -/
def updateValue (key : JobKey) (name : String) (bytes : List UInt8) :
    Procedure (Except Error Unit) :=
  change key fun _ job => job.setValue name bytes

/-- Record the status of a task of a job, with a log entry. -/
def updateTask (key : JobKey) (status : Status) (task message : String) :
    Procedure (Except Error Unit) :=
  change key fun t job => (job.setTaskStatus task status).addLog task message t

/-- Create a job. -/
def createJob (account : AccountId) (description : String) :
    Procedure (Except Error (Job × Bool)) :=
  .newId fun id => .now fun t =>
    let job := Job.create id account description t
    .save job fun answer => .done (answer.map fun _ => (job, true))

/-- The job of a call, and whether the call created it: the existing one if there is one of the
given name, else a new one. -/
def openJob (account : AccountId) (existing : Option JobId) (description : String) :
    Procedure (Except Error (Job × Bool)) :=
  match existing with
  | none => createJob account description
  | some id =>
    .get ⟨account, id⟩ fun
      | .ok job => .done (.ok (job, false))
      | .error e => if e.isNotFound then createJob account description else .done (.error e)

/-- What a caller that waits for a job makes of one look at it: an answer, or another look. -/
def waitAnswer? (key : JobKey) : Except Error StatusReport → Option (Except Error Unit)
  | .error e => some (.error e)
  | .ok report =>
    match report.status with
    | .success => some (.ok ())
    | .failed => some (.error (.jobFailed key.id.toText report.message))
    | .pending => none

end JobNode.Manager
