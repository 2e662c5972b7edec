import JobNode.Manager.Operations
import JobNode.Notification

/-!
# Finalizing a job

A call runs the work of its job and watches two things: the work, and its own cancellation.  When
the work has ended the job is completed, and when the call was cancelled first the job is only noted
as stopped and stays as it is.  The outcome is sent once, and a message goes out about a job that
the call has created.
-/

namespace JobNode.Manager

/-- The mark of log entries that the manager writes itself. -/
def logPrefix : String := "manager"

/-- The task name of the log entry about a cancelled call. -/
def cancelledTask : String := "context cancelled"

/-- The job that a call is responsible for. -/
structure Assignment where
  account : AccountId
  id : JobId
  description : String
  /-- The call has created the job. -/
  created : Bool
  deriving DecidableEq

namespace Assignment

/-- The key of the job. -/
def key (a : Assignment) : JobKey := ⟨a.account, a.id⟩

/-- What log entries about the work of the job are filed under. -/
def action (a : Assignment) : String := logPrefix ++ "[" ++ a.description ++ "]"

/-- The text that is logged when the call is cancelled. -/
def cancelledMessage (a : Assignment) : String :=
  "Job " ++ a.id.toText ++ " for account " ++ a.account.toText ++ " with description \"" ++
    a.description ++ "\" is stopped because its context was cancelled"

end Assignment

/-- How the work of a job ends: well, or with the text of an error. -/
abbrev WorkEnd := Except String Unit

/-- The end of work that panicked. -/
def panicked (detail : String) : WorkEnd := .error ("work panicked: " ++ detail)

/-- The error that a call reports for its work. -/
def failure? (a : Assignment) : WorkEnd → Option Error
  | .ok () => none
  | .error text => some (.workFailure a.action text)

/-- An error after an earlier one, if there was one. -/
def followed (earlier : Option Error) (e : Error) : Error :=
  match earlier with
  | some first => first.append e
  | none => e

/-- The record of a job after its work has ended. -/
def completed (a : Assignment) (last : WorkEnd) (now : Instant) (job : Job) : Job :=
  match failure? a last with
  | some failure => (job.addLog a.action failure.message now).transitionIfAllowed .failed
  | none => if a.created then job.transitionIfAllowed .success else job

/-- What finalizing comes to: the record it tried to save, if it could read one, and the outcome of
the call. -/
structure Finalized where
  snapshot : Option Job
  outcome : Except Error Unit

/-- Finalize a job whose work has ended. -/
def complete (a : Assignment) (last : WorkEnd) : Procedure Finalized :=
  .get a.key fun
    | .error e => .done ⟨none, .error (followed (failure? a last) e)⟩
    | .ok job => .now fun t =>
      let job := completed a last t job
      .save job fun
        | .error e => .done ⟨some job, .error (followed (failure? a last) e)⟩
        | .ok () =>
          .done ⟨some job,
            match failure? a last with
            | some failure => .error failure
            | none => .ok ()⟩

/-- Note that the call of a job was cancelled. -/
def recordCancellation (a : Assignment) : Procedure Finalized :=
  .get a.key fun
    | .error e => .done ⟨none, .error e⟩
    | .ok job => .now fun t =>
      let job := job.addLog cancelledTask a.cancelledMessage t
      .save job fun answer => .done ⟨some job, answer⟩

/-- The two ways to finalize a job. -/
inductive Branch where
  | completion (last : WorkEnd)
  | cancellation

/-- The way that is taken: the end of the work goes before a cancellation. -/
def branch? (work : Option WorkEnd) (cancelled : Bool) : Option Branch :=
  match work with
  | some last => some (.completion last)
  | none => if cancelled then some .cancellation else none

/-- Finalize a job one way. -/
def finalize (a : Assignment) : Branch → Procedure Finalized
  | .completion last => complete a last
  | .cancellation => recordCancellation a

/-- The message about a finalized job: there is one if the call has created the job and finalizing
got a record to announce. -/
def announcement? (a : Assignment) (f : Finalized) (now : Instant) : Option Notification :=
  match a.created, f.snapshot with
  | true, some job => some (.jobCompleted a.account job now)
  | _, _ => none

end JobNode.Manager
