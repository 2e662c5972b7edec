import JobNode.Queue.Collecting
import JobNode.Schedule.Plant

/-!
# Callers of queues and nodes

What a caller does with the hosts of a plant while their threads run.  The threads go on only while
the caller waits; whatever else the caller does happens at one time.
-/

namespace JobNode.Schedule

/-- A plant whose threads run. -/
abbrev PlantRun := Threads Plant Thread

namespace PlantRun

/-- The plant changed at one time. -/
def change (r : PlantRun) (f : Plant → Plant) : PlantRun := { r with state := f r.state }

/-- The pool of a host, or an empty one. -/
def pool (r : PlantRun) (host : Nat) : Pool Task :=
  match r.state.hosts[host]? with
  | some h => h.pool
  | none => .empty .empty

/-- Wait until the plant is as wanted, but not past some time. -/
def await (r : PlantRun) (wanted : Plant → Bool) (deadline : Nat) : Bool × PlantRun :=
  (r.runUntil Plant.rules wanted (some deadline) Threads.maxMoves).getD (false, r)

/-- Let some time pass. -/
def pass (r : PlantRun) (d : Duration) : PlantRun := Threads.pass Plant.rules d r

/-- Open a gate. -/
def openGate (r : PlantRun) (name : String) : PlantRun :=
  r.change fun p => { p with scene := p.scene.openGate name }

/-! ## Outcomes -/

/-- The outcome of a submission, if there is one. -/
def outcome? (host : Nat) (id : TaskId) (p : Plant) : Option Outcome :=
  (p.hosts[host]?).bind fun h => h.pool.backend.outcome? id

/-- Wait for the outcome of a submission; none if the time is up before. -/
def awaitOutcome (r : PlantRun) (host : Nat) (id : TaskId) (limit : Duration) :
    Option Outcome × PlantRun :=
  let (_, r) := r.await (fun p => (outcome? host id p).isSome) (timerAt r.now limit)
  (outcome? host id r.state, r)

/-- What a handle answers that waits for its outcome.  The caller goes on when it begins, and once
more when the outcome is announced or the time is up. -/
def collect (r : PlantRun) (host : Nat) (id : TaskId) (limit : Duration) :
    Option Outcome × PlantRun :=
  let x := Collector.create id limit (timerAt r.now limit)
  let x := x.poll (r.pool host).backend 0 r.now
  let (_, r) := r.awaitOutcome host id limit
  ((x.poll (r.pool host).backend 1 r.now).answer?, r)

/-! ## Queue servers -/

/-- The queue server of a host. -/
def server? (r : PlantRun) (host : Nat) : Option (Server Task) :=
  (r.state.shared? host).map SharedServer.server

/-- The server of a host accepts submissions. -/
def isRunning (r : PlantRun) (host : Nat) : Bool := (r.server? host).any Server.isRunning

/-- Register a task with the server of a host. -/
def register (r : PlantRun) (host : Nat) (name ownName : String) (task : Task) :
    Except QueueError Unit × PlantRun :=
  match r.server? host with
  | none => (.error .notInitialised, r)
  | some s =>
    match s.register name ownName task with
    | .ok _ =>
      (.ok (), r.change fun p => p.serverSteps host [.server (.register name ownName task)])
    | .error e => (.error e, r)

/-- Start the server of a host and wait until it is up or the start is refused; the answer is the
refusal. -/
def start (r : PlantRun) (host : Nat) : Option QueueError × PlantRun :=
  let call := ((r.state.shared? host).map fun s => s.calls.length).getD 0
  let r := (Threads.start r [.call host none .calling]).settle Plant.rules
  ((r.state.shared? host).bind fun s => s.report? call, r)

/-- Submit a task to the server of a host. -/
def enqueue (r : PlantRun) (host : Nat) (task : String) (params : Params) :
    Except QueueError TaskId × PlantRun :=
  let (uuid, scene) := r.state.scene.newUuid
  let (date, scene) := scene.look r.now
  let id : TaskId := ⟨uuid⟩
  match r.server? host with
  | none => (.error .notInitialised, r)
  | some s =>
    match s.enqueue id task params date with
    | .ok _ =>
      (.ok id, r.change fun p =>
        ({ p with scene }.serverSteps host [.server (.enqueue id task params date)]).onHost host
          Host.ring)
    | .error e => (.error e, r)

/-- Drop the handle of a submission. -/
def dropHandle (r : PlantRun) (host : Nat) (id : TaskId) : PlantRun :=
  r.change fun p => p.serverSteps host [.server (.forget id)]

/-- Tell the server of a host to stop. -/
def cancel (r : PlantRun) (host : Nat) : PlantRun :=
  if r.isRunning host then r.change fun p => p.onHost host fun h => { h with cancelled := true }
  else r

/-- The server of a host is down. -/
def isDown (host : Nat) (p : Plant) : Bool :=
  match p.shared? host with
  | some s => s.server.phase == .idle || s.server.phase == .stopped
  | none => true

/-- Wait until the server of a host has stopped; the answer says whether it did within some
time. -/
def join (r : PlantRun) (host : Nat) (limit : Duration) : Bool × PlantRun :=
  r.await (isDown host) (timerAt r.now limit)

/-! ## Pools -/

/-- The pool of a host that is no server, with the calls that stop it. -/
def pool? (host : Nat) (p : Plant) : Option (SharedPool Task) :=
  match (p.hosts[host]?).map Host.machine with
  | some (.pool _ s) => some s
  | _ => none

/-- Change the pool of a host that is no server. -/
def onPool (r : PlantRun) (host : Nat) (f : SharedPool Task → SharedPool Task) : PlantRun :=
  r.change fun p => p.onHost host fun h =>
    match h.machine with
    | .pool wait s => { h with machine := .pool wait (f s) }
    | .server _ => h

/-- Carry out a step of a pool. -/
def poolStep (r : PlantRun) (host : Nat) (e : SharedPool.Event) : PlantRun :=
  r.onPool host fun s => (s.apply e).getD s

/-- Hand a submission to a pool. -/
def send (r : PlantRun) (host : Nat) (s : Submission) : PlantRun :=
  (r.poolStep host (.pool (.send s))).change fun p => p.onHost host Host.ring

/-- Take the oldest submission of a pool. -/
def takeNext (r : PlantRun) (host : Nat) : Except QueueError (Option Submission) × PlantRun :=
  match r.state.hosts[host]? with
  | none => (.ok none, r)
  | some h =>
    match h.failTake with
    | n + 1 => (.error .closed, r.change fun p => p.setHost host { h with failTake := n })
    | 0 =>
      (.ok h.pool.pending.head?, r.onPool host fun s =>
        { s with pool := { s.pool with pending := s.pool.pending.drop 1 } })

/-- Record an outcome. -/
def setOutcome (r : PlantRun) (host : Nat) (id : TaskId) (outcome : Outcome) :
    Except QueueError Unit × PlantRun :=
  match r.state.hosts[host]? with
  | none => (.ok (), r)
  | some h =>
    match h.failStore with
    | n + 1 => (.error .closed, r.change fun p => p.setHost host { h with failStore := n })
    | 0 =>
      (.ok (), r.onPool host fun s =>
        { s with pool := { s.pool with backend := s.pool.backend.set id outcome } })

/-- Record an outcome after some time, and wait for the first outcome from now on, after that at
most for some limit. -/
def setLater (r : PlantRun) (host : Nat) (id : TaskId) (outcome : Outcome)
    (delay limit : Duration) : Except QueueError Unit × Option Outcome × PlantRun :=
  let due := timerAt r.now delay
  let (first, r) := r.awaitOutcome host id delay
  let r := if delay.nanos = 0 then r else r.advance Plant.rules (due - r.now)
  let (result, r) := r.setOutcome host id outcome
  match first with
  | some outcome => (result, some outcome, r)
  | none =>
    let (outcome, r) := r.awaitOutcome host id limit
    (result, outcome, r)

/-- Add the workers of a pool. -/
def startPool (r : PlantRun) (host : Nat) : PlantRun :=
  let before := (r.pool host).workers.length
  let r := r.poolStep host .start
  let added := (r.pool host).workers.length - before
  Threads.start r (Plant.workersFrom host before added)

/-- Stop a pool and wait until its workers are gone; the answer says whether they went within some
time. -/
def stopPool (r : PlantRun) (host : Nat) (limit : Duration) : Bool × PlantRun :=
  let call := ((pool? host r.state).map fun s => s.stops.length).getD 0
  let r := (r.poolStep host .stop).poolStep host (.claim call)
  let wanted (p : Plant) : Bool := (pool? host p).all fun s => s.mayReturn call
  let (gone, r) := r.await wanted (timerAt r.now limit)
  (gone, r.poolStep host (.leave call))

/-! ## Nodes -/

/-- Start a node that runs members. -/
def startNode (r : PlantRun) (members : List Thread) : PlantRun :=
  Threads.start (r.change fun p => { p with node := .create members.length }) (.node :: members)

/-- Cancel the node. -/
def cancelNode (r : PlantRun) : PlantRun := r.change fun p => p.nodeSteps [.cancel]

/-- Wait until the run of the node has returned; none if it does not within some time. -/
def joinNode (r : PlantRun) (limit : Duration) : Option (Except Error Unit) × PlantRun :=
  let (finished, r) := r.await (fun p => p.node.finished) (timerAt r.now limit)
  (if finished then r.state.node.outcome else none, r)

end PlantRun

/-! ## Submitting by name -/

/-- A caller of the first host of a plant that gives its submissions names. -/
structure Submitter where
  run : PlantRun
  /-- The handles that the caller holds, by name. -/
  handles : List (String × TaskId) := []
  /-- All submissions with their names, the latest first. -/
  names : List (TaskId × String) := []

namespace Submitter

/-- Drop the handle of a name; the answer says whether the caller held it. -/
def drop (q : Submitter) (name : String) : Bool × Submitter :=
  match q.handles.lookup name with
  | none => (false, q)
  | some id =>
    (true,
      { q with
        run := q.run.dropHandle 0 id
        handles := q.handles.filter (·.1 != name) })

/-- Submit a task under a name; an older handle of the name is dropped. -/
def submit (q : Submitter) (name task : String) (params : Params) :
    Except QueueError Unit × Submitter :=
  match q.run.enqueue 0 task params with
  | (.error e, run) => (.error e, { q with run })
  | (.ok id, run) =>
    let (_, q) := { q with run }.drop name
    (.ok (), { q with handles := (name, id) :: q.handles, names := (id, name) :: q.names })

/-- Wait for the outcome of a submission; none if the caller does not hold its handle. -/
def collect? (q : Submitter) (name : String) (limit : Duration) :
    Option (Option Outcome) × Submitter :=
  match q.handles.lookup name with
  | none => (none, q)
  | some id =>
    let (outcome, run) := q.run.collect 0 id limit
    (some outcome, { q with run })

end Submitter

end JobNode.Schedule
