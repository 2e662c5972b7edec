import JobNode.Queue.Execution

/-!
# Workers

A pool of workers takes submissions from a queue in the order they were sent in and records their
outcomes.  `Pool.apply` is one step of one worker or of a caller; a run of the pool is any sequence
of steps, so whatever holds after every sequence holds however the workers are scheduled.

A worker that waits may look at the queue at any time, asked or not.  It takes submissions until the
queue is empty or the pool is stopped, and leaves once it sees the stop while it waits.  It sees the
stop only before it turns to the queue: a submission that it takes after that, it takes although the
pool was stopped in between.

A body that goes on for too long is told to end, and the worker turns to the next submission at once.
The body ends when it comes to that, so it may go on for a while beside the next one; nobody asks any
more what becomes of it.
-/

namespace JobNode

/-- What a worker is doing. -/
inductive Worker (τ : Type) where
  /-- Waiting to be woken. -/
  | parked
  /-- About to see whether it should go on taking. -/
  | draining
  /-- Has seen no stop, and is about to take the oldest submission. -/
  | looking
  /-- Has taken a submission. -/
  | holding (s : Submission)
  /-- Counts as active, and is about to start the submission. -/
  | counted (s : Submission)
  /-- The body of the task runs, at most for the given time. -/
  | running (s : Submission) (task : τ) (limit : Duration)
  /-- Has the outcome, and still counts as active. -/
  | finished (s : Submission) (outcome : Outcome)
  /-- About to record the outcome. -/
  | storing (s : Submission) (outcome : Outcome)
  /-- Gone. -/
  | exited

namespace Worker

variable {τ : Type}

/-- The worker counts as active. -/
def isActive : Worker τ → Bool
  | counted _ | running _ _ _ | finished _ _ => true
  | parked | draining | looking | holding _ | storing _ _ | exited => false

/-- The submission that the worker has taken and not yet settled. -/
def held? : Worker τ → Option Submission
  | holding s | counted s | running s _ _ | finished s _ | storing s _ => some s
  | parked | draining | looking | exited => none

/-- The worker is gone. -/
def isExited : Worker τ → Bool
  | exited => true
  | _ => false

end Worker

/-- A queue of submissions, the workers that take from it and the outcomes they record. -/
structure Pool (τ : Type) where
  /-- The tasks that submissions can name. -/
  registry : Dict τ
  /-- The submissions that wait for a worker, the oldest first. -/
  pending : List Submission
  backend : Backend
  workers : List (Worker τ)
  /-- The submissions whose bodies were told to end and have not ended yet. -/
  strays : List Submission
  /-- Number of workers that say they are running a submission. -/
  active : Nat
  /-- The workers were told to stop. -/
  cancelled : Bool
  /-- No further workers are started. -/
  closed : Bool

namespace Pool

variable {τ : Type}

/-- A pool without workers. -/
def empty (registry : Dict τ) : Pool τ where
  registry := registry
  pending := []
  backend := .empty
  workers := []
  strays := []
  active := 0
  cancelled := false
  closed := false

/-- A step of a worker or a caller. -/
inductive Event where
  /-- A submission comes in. -/
  | send (s : Submission)
  /-- So many workers are started. -/
  | start (n : Nat)
  /-- The workers are told to stop. -/
  | cancel
  /-- No further workers may be started. -/
  | close
  /-- The handle of a submission is dropped. -/
  | forget (id : TaskId)
  /-- A waiting worker wakes up. -/
  | wake (w : Nat)
  /-- A worker sees no stop and turns to the queue. -/
  | look (w : Nat)
  /-- A worker that sees a stop, or gets no submission from the queue, waits. -/
  | rest (w : Nat)
  /-- A waiting worker sees that it should stop. -/
  | exit (w : Nat)
  /-- A worker takes the oldest submission. -/
  | take (w : Nat)
  /-- A worker counts itself as active. -/
  | count (w : Nat)
  /-- A worker starts the submission it has taken. -/
  | begin (w : Nat) (now : Instant)
  /-- The body of a task ends. -/
  | finish (w : Nat) (last : BodyEnd)
  /-- The submission is no longer valid while its body runs, which is told to end. -/
  | overrun (w : Nat)
  /-- A body that was told to end has come to its end. -/
  | cease (i : Nat)
  /-- A worker no longer counts as active. -/
  | uncount (w : Nat)
  /-- A worker records the outcome. -/
  | store (w : Nat)
  /-- The outcome cannot be recorded and is lost. -/
  | lose (w : Nat)

/-- The pool with another state of one worker. -/
def setWorker (p : Pool τ) (w : Nat) (state : Worker τ) : Pool τ :=
  { p with workers := p.workers.set w state }

/-- One step; none if it cannot happen. -/
def apply (p : Pool τ) : Event → Option (Pool τ)
  | .send s => some { p with pending := p.pending ++ [s] }
  | .start n =>
    some (if p.closed then p else { p with workers := p.workers ++ List.replicate n .parked })
  | .cancel => some { p with cancelled := true }
  | .close => some { p with closed := true }
  | .forget id => some { p with backend := p.backend.forget id }
  | .wake w =>
    match p.workers[w]? with
    | some .parked => some (p.setWorker w .draining)
    | _ => none
  | .look w =>
    match p.workers[w]?, p.cancelled with
    | some .draining, false => some (p.setWorker w .looking)
    | _, _ => none
  | .rest w =>
    match p.workers[w]?, p.cancelled with
    | some .draining, true => some (p.setWorker w .parked)
    | some .looking, _ => some (p.setWorker w .parked)
    | _, _ => none
  | .exit w =>
    match p.workers[w]?, p.cancelled with
    | some .parked, true => some (p.setWorker w .exited)
    | _, _ => none
  | .take w =>
    match p.workers[w]?, p.pending with
    | some .looking, s :: rest => some { p.setWorker w (.holding s) with pending := rest }
    | _, _ => none
  | .count w =>
    match p.workers[w]? with
    | some (.holding s) => some { p.setWorker w (.counted s) with active := p.active + 1 }
    | _ => none
  | .begin w now =>
    match p.workers[w]? with
    | some (.counted s) =>
      match s.start p.registry now with
      | .settled outcome => some (p.setWorker w (.finished s outcome))
      | .run task limit => some (p.setWorker w (.running s task limit))
    | _ => none
  | .finish w last =>
    match p.workers[w]? with
    | some (.running s _ _) => some (p.setWorker w (.finished s (s.outcome last)))
    | _ => none
  | .overrun w =>
    match p.workers[w]? with
    | some (.running s _ _) =>
      some { p.setWorker w (.finished s s.expired) with strays := p.strays ++ [s] }
    | _ => none
  | .cease i => some { p with strays := p.strays.eraseIdx i }
  | .uncount w =>
    match p.workers[w]? with
    | some (.finished s outcome) =>
      some { p.setWorker w (.storing s outcome) with active := p.active - 1 }
    | _ => none
  | .store w =>
    match p.workers[w]? with
    | some (.storing s outcome) =>
      some { p.setWorker w .draining with backend := p.backend.set s.id outcome }
    | _ => none
  | .lose w =>
    match p.workers[w]? with
    | some (.storing _ _) => some (p.setWorker w .draining)
    | _ => none

/-- All workers are gone. -/
def allExited (p : Pool τ) : Bool := p.workers.all Worker.isExited

/-- The step belongs to a worker that keeps every outcome. -/
def Event.isWorkerStep : Event → Bool
  | send _ | start _ | cancel | close | forget _ | cease _ | lose _ => false
  | _ => true

/-- The worker that takes the step, if one does. -/
def Event.worker? : Event → Option Nat
  | send _ | start _ | cancel | close | forget _ | cease _ => none
  | wake w | look w | rest w | exit w | take w | count w | begin w _ | finish w _ | overrun w
  | uncount w | store w | lose w => some w

end Pool

end JobNode
