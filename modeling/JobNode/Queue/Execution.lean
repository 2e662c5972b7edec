import JobNode.Queue.Backend

/-!
# Running one submission

A worker that has taken a submission looks its task up, checks that the submission is still valid,
and runs the body of the task for as long as the submission stays valid.  Whatever the body does,
the worker ends up with an outcome.
-/

namespace JobNode

/-- How the body of a task ends. -/
inductive BodyEnd where
  | returned (value : Json)
  | failed (message : String)
  | panicked

/-- What a worker does with a submission it has taken. -/
inductive Start (τ : Type) where
  /-- No body is started. -/
  | settled (outcome : Outcome)
  /-- The body of the task runs with the submitted parameters, at most for the given time. -/
  | run (task : τ) (limit : Duration)

namespace Submission

variable {τ : Type}

/-- The outcome of a submission that is no longer valid. -/
def expired (s : Submission) : Outcome := .error (.expired s.id.toText)

/-- What a worker does with a submission it takes at some time: an unknown task comes before an
expired submission. -/
def start (registry : Dict τ) (s : Submission) (now : Instant) : Start τ :=
  match registry.get? s.task with
  | none => .settled (.error (.unknownTask s.task))
  | some task =>
    match s.remaining? now with
    | none => .settled s.expired
    | some limit => .run task limit

/-- The outcome of a submission whose body has ended in time. -/
def outcome (s : Submission) : BodyEnd → Outcome
  | .returned value => .ok value
  | .failed message => .error (.taskFailed s.task message)
  | .panicked => .error (.taskFailed s.task "task panicked")

/-- A body seen from outside: how long it takes and how it ends, or that it never does. -/
abbrev Behaviour := Option (Duration × BodyEnd)

/-- The outcome of a submission that is taken at some time, given the registered tasks and what
their bodies do with the parameters. -/
def execute (registry : Dict τ) (behave : τ → Params → Behaviour) (s : Submission)
    (now : Instant) : Outcome :=
  match s.start registry now with
  | .settled outcome => outcome
  | .run task limit =>
    match behave task s.params with
    | some (time, last) => if time ≤ limit then s.outcome last else s.expired
    | none => s.expired

end Submission

end JobNode
