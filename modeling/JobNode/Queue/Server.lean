import JobNode.Queue.Pool
import JobNode.Queue.Settings

/-!
# The queue server

Tasks are registered with the server before it starts.  While it runs it accepts submissions of
registered tasks; when it is cancelled it stops its workers and then closes the submissions that
none of them took.  It starts at most once.

`Server.apply` is one step under the lock of the server, of its shutdown or of a worker; a run of
the server is any sequence of steps.
-/

namespace JobNode

/-- How far the life of a server has come. -/
inductive Phase where
  | idle
  /-- Submissions are accepted. -/
  | running
  /-- No more submissions are accepted, and the workers finish what they hold. -/
  | stopping
  /-- The workers are gone, and what they left is closed. -/
  | closing
  | stopped
  deriving DecidableEq

/-- A queue server. -/
structure Server (τ : Type) where
  settings : QueueSettings
  /-- The registered tasks, the latest last. -/
  tasks : List (String × τ)
  phase : Phase
  pool : Pool τ
  /-- The submission that is being closed. -/
  closing? : Option Submission

/-- Who takes a submission from the queue. -/
inductive Taker where
  | worker (w : Nat)
  /-- The server, once its workers are gone. -/
  | server
  deriving DecidableEq

namespace Server

variable {τ : Type}

/-- A server that has not started. -/
def create (settings : QueueSettings) : Server τ where
  settings := settings
  tasks := []
  phase := .idle
  pool := .empty .empty
  closing? := none

/-- The server is up. -/
def isRunning (s : Server τ) : Bool := s.phase == .running

/-- The refusal of a task under another name than its own. -/
def wrongName (ownName name : String) : QueueError :=
  .validation ("task type '" ++ ownName ++ "' cannot be registered as '" ++ name ++ "'")

/-- Register a task under a name, which has to be its own. -/
def register (s : Server τ) (name ownName : String) (task : τ) : Except QueueError (Server τ) :=
  if s.phase ≠ .idle then .error .alreadyStarted
  else if ownName ≠ name then .error (wrongName ownName name)
  else .ok { s with tasks := s.tasks ++ [(name, task)] }

/-- Start the workers; of two tasks with one name the later one counts. -/
def start (s : Server τ) : Except QueueError (Server τ) :=
  if s.phase ≠ .idle then .error .alreadyStarted
  else
    match s.settings.check with
    | .error e => .error e
    | .ok () =>
      let pool : Pool τ := .empty (.ofList s.tasks)
      .ok
        { s with
          phase := .running
          pool := { pool with workers := List.replicate s.settings.workers .parked } }

/-- Accept a submission of a registered task. -/
def enqueue (s : Server τ) (id : TaskId) (task : String) (params : Params) (now : Instant) :
    Except QueueError (Server τ) :=
  if s.phase ≠ .running then .error .notInitialised
  else if s.pool.registry.contains task then
    let submission := Submission.create id task params s.settings.taskValidity now
    .ok { s with pool := { s.pool with pending := s.pool.pending ++ [submission] } }
  else .error (.unknownTask task)

/-- Drop the handle of a submission. -/
def forget (s : Server τ) (id : TaskId) : Server τ :=
  { s with pool := { s.pool with backend := s.pool.backend.forget id } }

/-- A step of the server. -/
inductive Event (τ : Type) where
  | register (name ownName : String) (task : τ)
  | start
  | enqueue (id : TaskId) (task : String) (params : Params) (now : Instant)
  | forget (id : TaskId)
  /-- A worker goes on. -/
  | work (e : Pool.Event)
  /-- A body that was told to end has come to its end. -/
  | cease (i : Nat)
  /-- The cancelled server stops accepting submissions. -/
  | halt
  /-- The workers are told to stop. -/
  | cancelWorkers
  /-- No further workers may be started. -/
  | closePool
  /-- The last worker is gone. -/
  | joinWorkers
  /-- The oldest submission that no worker took is taken to be closed. -/
  | takePending
  /-- The submission that was taken last is closed. -/
  | closePending
  /-- Nothing is left. -/
  | finish

/-- Who takes the step, if it belongs to one who takes submissions. -/
def Event.taker? : Event τ → Option Taker
  | work e => e.worker?.map .worker
  | takePending | closePending | finish => some .server
  | register _ _ _ | start | enqueue _ _ _ _ | forget _ | cease _ | halt | cancelWorkers | closePool
  | joinWorkers => none

/-- One step; none if it cannot happen.  A refused registration, start or submission changes
nothing. -/
def apply (s : Server τ) : Event τ → Option (Server τ)
  | .register name ownName task =>
    match s.register name ownName task with
    | .ok next => some next
    | .error _ => some s
  | .start =>
    match s.start with
    | .ok next => some next
    | .error _ => some s
  | .enqueue id task params now =>
    match s.enqueue id task params now with
    | .ok next => some next
    | .error _ => some s
  | .forget id => some (s.forget id)
  | .work e =>
    if e.isWorkerStep then (s.pool.apply e).map fun pool => { s with pool } else none
  | .cease i => (s.pool.apply (.cease i)).map fun pool => { s with pool }
  | .halt => if s.phase = .running then some { s with phase := .stopping } else none
  | .cancelWorkers =>
    if s.phase = .stopping then some { s with pool := { s.pool with cancelled := true } } else none
  | .closePool =>
    if s.phase = .stopping then some { s with pool := { s.pool with closed := true } } else none
  | .joinWorkers =>
    if s.phase = .stopping ∧ s.pool.cancelled ∧ s.pool.closed ∧ s.pool.allExited then
      some { s with phase := .closing }
    else none
  | .takePending =>
    match s.phase, s.closing?, s.pool.pending with
    | .closing, none, submission :: rest =>
      some { s with pool := { s.pool with pending := rest }, closing? := some submission }
    | _, _, _ => none
  | .closePending =>
    match s.closing? with
    | some submission =>
      some
        { s with
          pool :=
            { s.pool with backend := s.pool.backend.set submission.id (.error .closed) }
          closing? := none }
    | none => none
  | .finish =>
    match s.phase, s.closing?, s.pool.pending with
    | .closing, none, [] => some { s with phase := .stopped }
    | _, _, _ => none

end Server

end JobNode
