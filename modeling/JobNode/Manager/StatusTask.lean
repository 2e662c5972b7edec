import JobNode.Manager.Operations
import JobNode.Queue.Execution

/-!
# The task that reports the status of a job

The task takes an account and a job as text parameters and returns the status report of the job.
It fails with the text of the first step that fails, and changes nothing.
-/

namespace JobNode.Manager.StatusTask

open Json

/-- The name of the task. -/
def name : String := "job_status"

/-- The parameter that names the account. -/
def accountParam : String := "account_id"

/-- The parameter that names the job. -/
def jobParam : String := "job_id"

/-- The job that the parameters name, or the text of what is wrong with them.  The account is read
before the job is looked at. -/
def key (params : Params) : Except String JobKey :=
  match params.text accountParam with
  | .error e => .error e.message
  | .ok accountText =>
    match AccountId.read accountText with
    | .error e => .error e.message
    | .ok account =>
      match params.text jobParam with
      | .error e => .error e.message
      | .ok jobText =>
        match JobId.read jobText with
        | .error e => .error e.message
        | .ok id => .ok ⟨account, id⟩

/-- The end of the task after its look at the job. -/
def bodyEnd : Except Error StatusReport → BodyEnd
  | .ok report => .returned report.toJson
  | .error e => .failed e.message

/-- The body of the task. -/
def run (params : Params) : Procedure BodyEnd :=
  match key params with
  | .error text => .done (.failed text)
  | .ok key => (getStatus key).bind fun answer => .done (bodyEnd answer)

end JobNode.Manager.StatusTask
