import JobNode.Schedule.Caller

/-!
# Trials of a node

A trial starts a node with queue servers and planned servers, submits tasks to its queues, cancels
it after some time, and reports how the run of the node and its servers ended.
-/

namespace JobNode.Schedule

/-- A server of the node on trial. -/
inductive TrialMember where
  /-- A queue server with tasks, each with the name to register it under and its own name. -/
  | queue (settings : QueueSettings) (tasks : List (String × String × Task))
  | planned (plan : PlannedServer)

/-- The name that a queue server goes by. -/
def queueServerName : String := "QueueServer"

/-- The name of a server. -/
def TrialMember.name : TrialMember → String
  | queue _ _ => queueServerName
  | planned plan => plan.name

/-- A node on trial. -/
structure NodeTrial where
  run : PlantRun
  /-- The plans of the planned servers, in order. -/
  plans : List PlannedServer

namespace NodeTrial

/-- A queue server with the tasks that it lets register. -/
def queueServer (settings : QueueSettings) (tasks : List (String × String × Task)) :
    Server Task :=
  tasks.foldl
    (fun s (name, ownName, task) =>
      match s.register name ownName task with
      | .ok next => next
      | .error _ => s)
    (.create settings)

/-- The hosts, the plans and the threads of members. -/
def assemble (members : List TrialMember) :
    List Host × List PlannedServer × List Thread :=
  members.foldl
    (fun (hosts, plans, threads) m =>
      match m with
      | .queue settings tasks =>
        let host : Host := { machine := .server ⟨queueServer settings tasks, [], none⟩ }
        (hosts ++ [host], plans, threads ++ [.call hosts.length (some threads.length) .calling])
      | .planned plan =>
        (hosts, plans ++ [plan], threads ++ [.planned threads.length plans.length plan .fresh]))
    ([], [], [])

/-- Start a node. -/
def start (members : List TrialMember) (jobs : Memory) : NodeTrial :=
  let (hosts, plans, threads) := assemble members
  let plant : Plant := { hosts, scene := { jobs }, sightings := plans.map fun _ => {} }
  ⟨PlantRun.startNode { state := plant } threads, plans⟩

/-- Let some time pass. -/
def pass (t : NodeTrial) (d : Duration) : NodeTrial := { t with run := t.run.pass d }

/-- Submit a task to a queue and wait for its outcome. -/
def call (t : NodeTrial) (host : Nat) (task : String) (params : Params) (limit : Duration) :
    Option Outcome × NodeTrial :=
  match t.run.enqueue host task params with
  | (.error e, run) => (some (.error e), { t with run })
  | (.ok id, run) =>
    let (outcome, run) := run.collect host id limit
    (outcome, { t with run := run.dropHandle host id })

/-- Cancel the node after some time; the answer says whether its run had returned before. -/
def cancelAfter (t : NodeTrial) (d : Duration) : Bool × NodeTrial :=
  let t := t.pass d
  (t.run.state.node.finished, { t with run := t.run.cancelNode })

/-- Wait until the run of the node has returned. -/
def finish (t : NodeTrial) (limit : Duration) : Option (Except Error Unit) × NodeTrial :=
  let (result, run) := t.run.joinNode limit
  (result, { t with run })

/-- The planned servers and what was seen of them. -/
def sightings (t : NodeTrial) : List (PlannedServer × Sighting) :=
  t.plans.zip t.run.state.sightings

/-- For each queue, whether it runs and what it answers to a submission. -/
def queues (t : NodeTrial) (task : String) : List (Bool × Except QueueError TaskId) :=
  (List.range t.run.state.hosts.length).map fun i =>
    (t.run.isRunning i, (t.run.enqueue i task .empty).1)

end NodeTrial

end JobNode.Schedule
