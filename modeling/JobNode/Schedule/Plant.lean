import JobNode.Node
import JobNode.Schedule.Host

/-!
# Queues and nodes on a clock

A plant is a number of hosts, the scene that the bodies of their tasks share, and possibly a node
that runs the hosts and other servers.  Its threads are the workers, the calls that start queue
servers, the other servers and the node itself; each turn of a thread is made of steps of the
machine it belongs to.
-/

namespace JobNode.Schedule

/-- A server of a node that follows a plan. -/
structure PlannedServer where
  name : String
  /-- How long it runs before it goes on; without it, it runs until it is cancelled. -/
  delay : Option Duration := none
  /-- The error it reports then. -/
  startupError : Option Error := none
  /-- It then waits until it is cancelled. -/
  thenBlock : Bool := false
  /-- How long it takes to stop. -/
  stopDelay : Duration := .zero
  /-- It panics instead of stopping. -/
  panics : Bool := false

/-- What was seen of a planned server. -/
structure Sighting where
  started : Bool := false
  /-- It was cancelled when it began to stop. -/
  sawCancel : Bool := false
  stopped : Bool := false

/-- Everything that the threads share. -/
structure Plant where
  hosts : List Host := []
  scene : Scene := {}
  node : Node := .create 0
  sightings : List Sighting := []

/-- Where a worker stands. -/
inductive WorkerStage where
  /-- It has just been started. -/
  | fresh
  | parked (alarm : Nat)
  /-- It is about to run, or to continue, the body of a task. -/
  | body (script : Script) (limit : Nat) (pause : Option Pause)
  /-- The body has ended. -/
  | ended

/-- Where a call stands that starts a server. -/
inductive CallStage where
  | calling
  | watching (call : Nat)
  | joining (call : Nat)

/-- Where a planned server stands. -/
inductive PlanStage where
  | fresh
  /-- It runs until some time, or until it is cancelled. -/
  | waiting (alarm : Option Nat)
  | blocked
  | stopping (alarm : Nat)

/-- A thread of a plant. -/
inductive Thread where
  | worker (host w : Nat) (stage : WorkerStage)
  /-- A call that starts a server, as a member of the node or on its own. -/
  | call (host : Nat) (member? : Option Nat) (stage : CallStage)
  | planned (member sighting : Nat) (plan : PlannedServer) (stage : PlanStage)
  | node

namespace Plant

/-- The plant with another state of one host. -/
def setHost (p : Plant) (i : Nat) (h : Host) : Plant := { p with hosts := p.hosts.set i h }

/-- Change one host. -/
def onHost (p : Plant) (i : Nat) (f : Host → Host) : Plant :=
  { p with hosts := p.hosts.modify i f }

/-- Change what was seen of one planned server. -/
def onSighting (p : Plant) (i : Nat) (f : Sighting → Sighting) : Plant :=
  { p with sightings := p.sightings.modify i f }

/-- Carry out steps of the node that can happen. -/
def nodeSteps (p : Plant) (events : List Node.Event) : Plant :=
  { p with node := events.foldl (fun n e => (n.apply e).getD n) p.node }

/-- Carry out steps of a queue server that can happen. -/
def serverSteps (p : Plant) (i : Nat) (events : List (SharedServer.Event Task)) : Plant :=
  p.onHost i fun h =>
    match h.machine with
    | .server s =>
      { h with machine := .server (events.foldl (fun s e => (s.apply e).getD s) s) }
    | .pool _ _ => h

/-- The queue server of a host. -/
def shared? (p : Plant) (i : Nat) : Option (SharedServer Task) :=
  match p.hosts[i]? with
  | some ⟨.server s, _, _, _, _, _, _⟩ => some s
  | _ => none

/-- A call was told to stop its server. -/
def isCancelled (p : Plant) (host : Nat) : Option Nat → Bool
  | some _ => p.node.serversCancelled
  | none => (p.hosts[host]?).any Host.cancelled

/-- The thread can go on. -/
def isReady (now : Nat) (p : Plant) : Thread → Bool
  | .worker host w stage =>
    match p.hosts[host]?, stage with
    | some h, .parked alarm => h.pool.cancelled || h.woken.contains w || alarm ≤ now
    | some _, .body _ limit (some pause) => limit ≤ now || pause.isOver now p.scene
    | _, _ => true
  | .call host member? stage =>
    match stage with
    | .calling => true
    | .watching _ => p.isCancelled host member?
    | .joining _ => (p.hosts[host]?).all fun h => h.pool.allExited
  | .planned _ _ _ stage =>
    match stage with
    | .fresh => true
    | .waiting (some alarm) => alarm ≤ now
    | .waiting none => p.node.serversCancelled
    | .blocked => p.node.serversCancelled
    | .stopping alarm => alarm ≤ now
  | .node =>
    match p.node.outcome with
    | none => p.node.verdict?.isSome
    | some _ => p.node.allReturned

/-- The time at which the thread goes on whatever happens. -/
def alarm? : Thread → Option Nat
  | .worker _ _ (.parked alarm) => some alarm
  | .worker _ _ (.body _ limit pause) =>
    match pause.bind Pause.alarm? with
    | some time => some (min limit time)
    | none => some limit
  | .planned _ _ _ (.waiting alarm) => alarm
  | .planned _ _ _ (.stopping alarm) => some alarm
  | _ => none

/-! ## Turns -/

/-- A turn that ends a thread. -/
def ended (p : Plant) : Turn Plant Thread := ⟨p, none, []⟩

/-- The worker has come to a rest. -/
def workerRest (p : Plant) (host w : Nat) (h : Host) (s : Scene) (rest : Host.Rest) :
    Turn Plant Thread :=
  let p := { p.setHost host h with scene := s }
  match rest with
  | .parked alarm => ⟨p, some (.worker host w (.parked alarm)), []⟩
  | .body script limit => ⟨p, some (.worker host w (.body script limit none)), []⟩
  | .gone => p.ended

/-- The worker goes on taking submissions. -/
def workerDrain (p : Plant) (host w now : Nat) (h : Host) : Turn Plant Thread :=
  let (h, s, rest) := Host.drain w now h.fuel h p.scene
  p.workerRest host w h s rest

/-- A turn of a worker. -/
def workerTurn (p : Plant) (host w now : Nat) (h : Host) : WorkerStage → Turn Plant Thread
  | .fresh =>
    match h.idle w now with
    | (h, some rest) => p.workerRest host w h p.scene rest
    | (h, none) => p.workerDrain host w now h
  | .parked _ =>
    let (h, s, rest) := h.wake w now p.scene
    p.workerRest host w h s rest
  | .body script limit pause =>
    if pause.all (Pause.isOver now p.scene) then
      let (scene, result) := script.advance now p.scene
      let p := { p with scene }
      match result with
      | .inl (pause, script) => ⟨p, some (.worker host w (.body script limit (some pause))), []⟩
      | .inr last => ⟨p.setHost host (h.work [.finish w last]), some (.worker host w .ended), []⟩
    else if limit ≤ now then
      -- a body that is told to end while it waits has nothing left to do
      p.workerDrain host w now ((h.work [.overrun w, .cease 0]).settle w)
    else ⟨p, some (.worker host w (.body script limit pause)), []⟩
  | .ended => p.workerDrain host w now (h.settle w)

/-- The threads of the workers of a host, from one of them on. -/
def workersFrom (host first count : Nat) : List Thread :=
  (List.range count).map fun i => .worker host (first + i) .fresh

/-- A call that was refused reports that, to its member of the node or to its own channel. -/
def refused (p : Plant) (host call : Nat) : Option Nat → Plant
  | none => p.serverSteps host [.report call]
  | some member =>
    let p := p.serverSteps host [.report call]
    let report? := ((p.shared? host).bind fun s => s.report? call).map Error.queue
    let p := p.serverSteps host [.read call]
    p.nodeSteps ((report?.map (.report member)).toList ++ [.leave member])

/-- A turn of a call that starts a server. -/
def callTurn (p : Plant) (host : Nat) (member? : Option Nat) : CallStage → Turn Plant Thread
  | .calling =>
    let p := p.nodeSteps (member?.map .enter).toList
    match p.shared? host with
    | none => p.ended
    | some s =>
      let call := s.calls.length
      let p := p.serverSteps host [.call (.create 1), .enter call]
      match (p.shared? host).bind fun s => s.calls[call]? with
      | some (.serving _) =>
        let workers := workersFrom host 0 s.server.settings.workers
        ⟨p, some (.call host member? (.watching call)), workers⟩
      | _ => (p.refused host call member?).ended
  | .watching call =>
    let p := p.serverSteps host [.server .halt, .server .cancelWorkers, .server .closePool]
    ⟨p, some (.call host member? (.joining call)), []⟩
  | .joining _ =>
    let left := ((p.shared? host).map fun s => s.server.pool.pending.length).getD 0
    let closing := List.replicate left [.server .takePending, .server .closePending]
    let p := p.serverSteps host ([.server .joinWorkers] ++ closing.flatten ++ [.server .finish])
    (p.nodeSteps (member?.map .leave).toList).ended

/-- A planned server ends. -/
def planEnd (p : Plant) (member sighting : Nat) (plan : PlannedServer) : Turn Plant Thread :=
  let p := p.onSighting sighting fun s => { s with stopped := !plan.panics }
  (p.nodeSteps [.leave member]).ended

/-- A planned server begins to stop. -/
def planStop (p : Plant) (member sighting now : Nat) (plan : PlannedServer) :
    Turn Plant Thread :=
  let cancelled := p.node.serversCancelled
  let p := p.onSighting sighting fun s => { s with sawCancel := cancelled }
  let time := timerAt now plan.stopDelay
  if time ≤ now then p.planEnd member sighting plan
  else ⟨p, some (.planned member sighting plan (.stopping time)), []⟩

/-- A planned server has run as long as it runs of itself. -/
def planReport (p : Plant) (member sighting now : Nat) (plan : PlannedServer) :
    Turn Plant Thread :=
  let p := p.nodeSteps (plan.startupError.map (.report member)).toList
  if plan.thenBlock ∧ ¬ p.node.serversCancelled then
    ⟨p, some (.planned member sighting plan .blocked), []⟩
  else p.planStop member sighting now plan

/-- A turn of a planned server.  It goes on until it has something to wait for. -/
def planTurn (p : Plant) (member sighting now : Nat) (plan : PlannedServer) :
    PlanStage → Turn Plant Thread
  | .fresh =>
    let p := p.nodeSteps [.enter member]
    let p := p.onSighting sighting fun s => { s with started := true }
    let alarm := plan.delay.map (timerAt now)
    if alarm.elim p.node.serversCancelled fun time => decide (time ≤ now) then
      p.planReport member sighting now plan
    else ⟨p, some (.planned member sighting plan (.waiting alarm)), []⟩
  | .waiting _ => p.planReport member sighting now plan
  | .blocked => p.planStop member sighting now plan
  | .stopping _ => p.planEnd member sighting plan

/-- A turn of a thread. -/
def turn (now : Nat) (p : Plant) : Thread → Turn Plant Thread
  | .worker host w stage =>
    match p.hosts[host]? with
    | some h => p.workerTurn host w now h stage
    | none => p.ended
  | .call host member? stage => p.callTurn host member? stage
  | .planned member sighting plan stage => p.planTurn member sighting now plan stage
  | .node =>
    let p := p.nodeSteps [.look, .look, .look, .finish]
    ⟨p, if p.node.finished then none else some .node, []⟩

/-- How the threads of a plant run. -/
def rules : Rules Plant Thread where
  isReady := isReady
  alarm? := alarm?
  turn := turn

end Plant

end JobNode.Schedule
