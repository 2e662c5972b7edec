import JobNode.Keyed
import JobNode.Manager.StatusTask
import JobNode.Queue.Server

/-!
# Job status through a queue

A queue server whose tasks include the one that reports the status of jobs, and the store of the
manager that this task asks.  Its bodies run beside each other and beside everybody else who uses the
store: each question is a step of its own.  What the other tasks do is left open.

`StatusDesk.apply` is one step of the server, of a body or of the other users of the store; a run is
any sequence of steps.
-/

namespace JobNode.Manager

/-- A task of the server. -/
inductive Duty (τ : Type) where
  /-- Reports the status of a job. -/
  | status
  | other (task : τ)

/-- A queue server, and the store that its status reports are about. -/
structure StatusDesk (τ : Type) where
  server : Server (Duty τ)
  store : Store
  /-- What is left of the status report that each worker has begun last. -/
  bodies : Keyed Nat (Procedure BodyEnd)

namespace StatusDesk

variable {τ : Type}

/-- A server that has not started, beside a store. -/
def create (settings : QueueSettings) (store : Store) : StatusDesk τ where
  server := .create settings
  store := store
  bodies := .empty

/-- A step of the server, of a status report or of the others. -/
inductive Event (τ : Type) where
  | server (e : Server.Event (Duty τ))
  /-- The status report of a worker gets one answer. -/
  | answer (w : Nat) (reply : Procedure.Reply) (now : Instant)
  /-- The status report of a worker ends in time. -/
  | finish (w : Nat)
  /-- The store after somebody else has used it. -/
  | change (store : Store)

/-- The submission whose status report a worker is working on. -/
def reporting? (s : StatusDesk τ) (w : Nat) : Option Submission :=
  match s.server.pool.workers[w]? with
  | some (.running x .status _) => some x
  | _ => none

/-- The server may do this by itself: status reports go by their own name, and end by themselves. -/
def mayGo (s : StatusDesk τ) : Server.Event (Duty τ) → Bool
  | .register _ ownName .status => ownName = StatusTask.name
  | .work (.finish w _) => (s.reporting? w).isNone
  | _ => true

/-- The status report that has begun when a worker has taken its submission up. -/
def begun (s : StatusDesk τ) : Server.Event (Duty τ) → StatusDesk τ
  | .work (.begin w _) =>
    match s.reporting? w with
    | some x => { s with bodies := s.bodies.put w (StatusTask.run x.params) }
    | none => s
  | _ => s

/-- One step; none if it cannot happen. -/
def apply (s : StatusDesk τ) : Event τ → Option (StatusDesk τ)
  | .server e =>
    if s.mayGo e then (s.server.apply e).map fun server => begun { s with server } e else none
  | .answer w reply now =>
    match s.reporting? w, s.bodies.find? w with
    | some _, some body =>
      (body.ask? s.store now reply).map fun (rest, store) =>
        { s with store, bodies := s.bodies.put w rest }
    | _, _ => none
  | .finish w =>
    match s.reporting? w, s.bodies.find? w with
    | some _, some (.done last) =>
      (s.server.apply (.work (.finish w last))).map fun server => { s with server }
    | _, _ => none
  | .change store => some { s with store }

end StatusDesk

end JobNode.Manager
