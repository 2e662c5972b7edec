import JobNode.Job.Key
import JobNode.Manager.Finalizer
import JobNode.Text.Quoted

/-!
# What the work of a job does

The work of a job as a list of actions, which are done one after the other: it sleeps, waits for a
signal or for another job, records task status and values, takes notes, starts jobs of its own, and
ends.  Jobs are named by the name that a call was given, or by their identifier.
-/

namespace JobNode.Schedule

/-- An action of some work. -/
inductive Action where
  | sleep (d : Duration)
  /-- Wait for a signal. -/
  | gate (signal : String)
  | never
  /-- End well, whatever follows. -/
  | succeed
  | fail (message : String)
  | panic (message : String)
  /-- Record the status of a task, of the own job or of another. -/
  | task (job? : Option String) (status : Status) (task message : String)
  /-- Store a value, with the own job or with another. -/
  | value (job? : Option String) (key : String) (bytes : List UInt8)
  /-- Note how the own job stands. -/
  | note
  /-- Wait until another job has ended; its failure is an error. -/
  | await (job : String)
  /-- Start a job, and possibly wait for its outcome; the failure of its work is an error. -/
  | nested (label : String) (account? : Option String) (description : String)
      (signal? : Option String) (wait : Bool) (work : List Action)

instance : Inhabited Action := ⟨.succeed⟩

/-- What a note says about a job. -/
structure Note where
  key : JobKey
  status : Status
  /-- Number of its log entries. -/
  logs : Nat

/-- Why work does not go on. -/
inductive WorkPause where
  | until (time : Nat)
  | gate (signal : String)
  | forever
  /-- Until the next look at a job. -/
  | look (key : JobKey) (time : Nat)
  /-- Until the outcome of a call is there. -/
  | outcome (call : Nat)

/-- The end of work that panics with a message; the number of the task that ran it is left open. -/
def panicEnd (message : String) : Manager.WorkEnd :=
  Manager.panicked ("task N panicked with message " ++ Text.quoted message)

end JobNode.Schedule
