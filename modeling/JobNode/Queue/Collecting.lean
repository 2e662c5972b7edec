import JobNode.Queue.Server

/-!
# Collecting outcomes

A caller collects the outcome of a submission through its handle, and waits for it up to a limit.
It registers for announcements before it looks at the slot, and goes to sleep only if no
announcement has come since.  Whoever records an outcome announces it afterwards to all who are
registered, whichever outcome they wait for; those look again.

`Collecting.apply` is one step of a collector, of the server beside it, of an announcement or of the
clock; a run is any sequence of steps.
-/

namespace JobNode

/-- How far a call has come that collects an outcome. -/
inductive Collector.Stage where
  /-- About to register for announcements. -/
  | entering
  /-- Registered after so many announcements, and about to look at the slot. -/
  | registered (heard : Nat)
  /-- Has found no outcome, and is about to see whether there was an announcement since. -/
  | missed (heard : Nat)
  /-- Has seen no announcement, and is about to look at the timer. -/
  | unheard (heard : Nat)
  /-- Sleeps until there is an announcement or the timer goes off. -/
  | asleep (heard : Nat)
  | answered (answer : Outcome)
  /-- Given up by the caller. -/
  | left

/-- A call that collects an outcome. -/
structure Collector where
  id : TaskId
  limit : Duration
  /-- The time at which the timer goes off. -/
  deadline : Nat
  stage : Collector.Stage

namespace Collector

/-- A call that begins. -/
def create (id : TaskId) (limit : Duration) (deadline : Nat) : Collector :=
  ⟨id, limit, deadline, .entering⟩

/-- The answer of a call whose time is up. -/
def timeout (x : Collector) : Outcome := .error (.timeout x.id.toText x.limit)

/-- The call has returned or was given up. -/
def isOver (x : Collector) : Bool :=
  match x.stage with
  | .answered _ | .left => true
  | .entering | .registered _ | .missed _ | .unheard _ | .asleep _ => false

/-- What a collector does. -/
inductive Act where
  | go
  /-- It wakes up for no reason. -/
  | stir
  /-- The caller gives up. -/
  | leave

/-- The next stage, given the outcomes, the number of announcements and the time; none if the act is
not possible. -/
def turn? (x : Collector) (b : Backend) (announced now : Nat) : Act → Option Stage
  | .go =>
    match x.stage with
    | .entering => some (.registered announced)
    | .registered heard =>
      match b.outcome? x.id with
      | some outcome => some (.answered outcome)
      | none => some (.missed heard)
    | .missed heard => some (if heard < announced then .entering else .unheard heard)
    | .unheard heard => some (if x.deadline ≤ now then .answered x.timeout else .asleep heard)
    | .asleep heard => if heard < announced ∨ x.deadline ≤ now then some (.missed heard) else none
    | .answered _ | .left => none
  | .stir =>
    match x.stage with
    | .asleep heard => some (.missed heard)
    | _ => none
  | .leave => if x.isOver then none else some .left

/-- Up to so many turns, as long as one is possible. -/
def goOn (b : Backend) (announced now : Nat) : Nat → Collector → Collector
  | 0, x => x
  | n + 1, x =>
    match x.turn? b announced now .go with
    | some stage => goOn b announced now n { x with stage }
    | none => x

/-- The call goes on undisturbed until it is over or sleeps, which takes six turns at most. -/
def poll (x : Collector) (b : Backend) (announced now : Nat) : Collector :=
  goOn b announced now 6 x

/-- The answer, once there is one. -/
def answer? (x : Collector) : Option Outcome :=
  match x.stage with
  | .answered answer => some answer
  | _ => none

end Collector

/-- A queue server, and the calls that collect outcomes from it. -/
structure Collecting (τ : Type) where
  server : Server τ
  /-- Nanoseconds from the start. -/
  now : Nat
  /-- Number of announcements. -/
  announced : Nat
  /-- The outcomes that were recorded and are still to be announced, and by whom. -/
  unannounced : List (Taker × TaskId)
  collectors : List Collector

namespace Collecting

variable {τ : Type}

/-- A server that has not started, and nobody who collects. -/
def create (settings : QueueSettings) : Collecting τ where
  server := .create settings
  now := 0
  announced := 0
  unannounced := []
  collectors := []

/-- The longest wait, in nanoseconds: thirty years.  Limits that no clock can count to end there. -/
def longestWait : Nat := 86400 * 365 * 30 * Duration.nanosPerSecond

/-- A step of the server, of a taker that announces, of the clock or of a collector. -/
inductive Event (τ : Type) where
  | server (e : Server.Event τ)
  /-- A taker announces what it has recorded. -/
  | announce (t : Taker)
  /-- Some nanoseconds pass. -/
  | pass (span : Nat)
  /-- A call begins. -/
  | collect (id : TaskId) (limit : Duration) (deadline : Nat)
  | turn (c : Nat) (act : Collector.Act)

/-- The submission whose outcome a step records, and who records it. -/
def recording? (s : Server τ) : Server.Event τ → Option (Taker × TaskId)
  | .work (.store w) =>
    match s.pool.workers[w]? with
    | some (.storing x _) => some (.worker w, x.id)
    | _ => none
  | .closePending => s.closing?.map fun x => (.server, x.id)
  | _ => none

/-- What is to be announced after a step: the outcome it records, if anybody still wants it. -/
def toAnnounce (s : Server τ) (e : Server.Event τ) : List (Taker × TaskId) :=
  (recording? s e).toList.filter fun record => !s.pool.backend.isAbandoned record.2

/-- The taker has something to announce. -/
def mustAnnounce (s : Collecting τ) (t : Taker) : Bool := s.unannounced.any (·.1 = t)

/-- Somebody collects the outcome. -/
def isCollected (s : Collecting τ) (id : TaskId) : Bool :=
  s.collectors.any fun x => x.id = id && !x.isOver

/-- The server may take the step: takers announce before they go on, and a handle is not dropped
during a call. -/
def mayGo (s : Collecting τ) (e : Server.Event τ) : Bool :=
  !e.taker?.any s.mustAnnounce &&
    match e with
    | .forget id => !s.isCollected id
    | _ => true

/-- One step; none if it cannot happen. -/
def apply (s : Collecting τ) : Event τ → Option (Collecting τ)
  | .server e =>
    if s.mayGo e then
      (s.server.apply e).map fun server =>
        { s with server, unannounced := s.unannounced ++ toAnnounce s.server e }
    else none
  | .announce t =>
    if s.mustAnnounce t then
      some
        { s with
          announced := s.announced + 1
          unannounced := s.unannounced.filter (·.1 ≠ t) }
    else none
  | .pass span => some { s with now := s.now + span }
  | .collect id limit deadline =>
    -- timers may go off late, but not early
    if s.now + min limit.nanos longestWait ≤ deadline then
      some { s with collectors := s.collectors ++ [.create id limit deadline] }
    else none
  | .turn c act =>
    match s.collectors[c]? with
    | some x =>
      (x.turn? s.server.pool.backend s.announced s.now act).map fun stage =>
        { s with collectors := s.collectors.set c { x with stage } }
    | none => none

end Collecting

end JobNode
