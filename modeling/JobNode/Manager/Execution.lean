import JobNode.Manager.Call

/-!
# Executions

A caller asks for work to be done within a job.  The job is opened, the work is started, and a
finalizer waits for the end of the work or for the cancellation.  Each question to the store is a
step of its own, so that the steps of many executions may alternate.
-/

namespace JobNode.Manager

/-- What a caller asks for. -/
structure Request where
  account : AccountId
  existing : Option JobId
  description : String

/-- How far an execution has come. -/
inductive Stage where
  /-- The job is being opened; the caller may have cancelled already. -/
  | opening (rest : Procedure (Except Error (Job × Bool))) (cancelled : Bool)
  /-- The job could not be opened. -/
  | refused (cause : Error)
  /-- The work was started; the finalizer is there once its way is chosen. -/
  | running (call : Call) (finalizer? : Option (Branch × Procedure Finalized))

/-- A request and how far it has come. -/
structure Execution where
  request : Request
  stage : Stage

namespace Execution

/-- A step of an execution. -/
inductive Event where
  /-- The job is opened one answer further. -/
  | prepare (reply : Procedure.Reply)
  /-- The opening ends: the work is started, or the caller gets the error. -/
  | enter
  /-- The caller cancels. -/
  | cancel
  /-- The work ends. -/
  | endWork (last : WorkEnd)
  /-- The finalizer chooses its way. -/
  | choose
  /-- The finalizer goes one answer further. -/
  | finalize (reply : Procedure.Reply)
  /-- The finalizer sends the outcome. -/
  | finish (now : Instant)
  /-- The caller looks into the channel. -/
  | receive
  /-- The caller lets go of the channel. -/
  | stopListening

/-- An execution that has done nothing yet. -/
def create (r : Request) : Execution where
  request := r
  stage := .opening (openJob r.account r.existing r.description) false

/-- The job is opened one answer further. -/
def prepare? (x : Execution) (m : Memory) (reply : Procedure.Reply) : Option (Execution × Memory) :=
  match x.stage with
  | .opening rest cancelled =>
    (rest.advance? m reply).map fun (rest, m) => ({ x with stage := .opening rest cancelled }, m)
  | _ => none

/-- Start the work on an opened job, or give up. -/
def enter? (x : Execution) : Option Execution :=
  match x.stage with
  | .opening (.done (.error cause)) _ => some { x with stage := .refused cause }
  | .opening (.done (.ok (job, created))) cancelled =>
    let call := Call.create ⟨x.request.account, job.id, job.description, created⟩
    some { x with stage := .running (if cancelled then call.cancel else call) none }
  | _ => none

/-- The execution is cancelled; any further time changes nothing. -/
def cancel (x : Execution) : Execution :=
  match x.stage with
  | .opening rest _ => { x with stage := .opening rest true }
  | .refused _ => x
  | .running call finalizer? => { x with stage := .running call.cancel finalizer? }

/-- The work ends, once. -/
def endWork? (x : Execution) (last : WorkEnd) : Option Execution :=
  match x.stage with
  | .running call finalizer? =>
    match call.work with
    | none => some { x with stage := .running (call.endWork last) finalizer? }
    | some _ => none
  | _ => none

/-- Choose the way to finalize. -/
def choose? (x : Execution) : Option Execution :=
  match x.stage with
  | .running call _ =>
    call.choose?.map fun (branch, call) =>
      { x with stage := .running call (some (branch, finalize call.assignment branch)) }
  | _ => none

/-- The finalizer goes one answer further. -/
def finalize? (x : Execution) (m : Memory) (reply : Procedure.Reply) :
    Option (Execution × Memory) :=
  match x.stage with
  | .running call (some (branch, rest)) =>
    (rest.advance? m reply).map fun (rest, m) =>
      ({ x with stage := .running call (some (branch, rest)) }, m)
  | _ => none

/-- Send the outcome of a finalizer that has ended. -/
def finish? (x : Execution) : Option Execution :=
  match x.stage with
  | .running call (some (branch, .done f)) =>
    (call.finish? f).map fun call => { x with stage := .running call (some (branch, .done f)) }
  | _ => none

/-- Look into the channel. -/
def receive? (x : Execution) : Option (Received × Execution) :=
  match x.stage with
  | .running call finalizer? =>
    if call.listening then
      some (call.receive.1, { x with stage := .running call.receive.2 finalizer? })
    else none
  | _ => none

/-- Let go of the channel. -/
def stopListening? (x : Execution) : Option Execution :=
  match x.stage with
  | .running call finalizer? => some { x with stage := .running call.stopListening finalizer? }
  | _ => none

/-- The message that goes out when the outcome is sent. -/
def message? (x : Execution) (now : Instant) : Option Notification :=
  match x.stage with
  | .running call (some (_, .done f)) => announcement? call.assignment f now
  | _ => none

/-- One step on jobs in memory; none if it cannot happen. -/
def apply (x : Execution) (m : Memory) : Event → Option (Execution × Memory)
  | .prepare reply => x.prepare? m reply
  | .enter => x.enter?.map (·, m)
  | .cancel => some (x.cancel, m)
  | .endWork last => (x.endWork? last).map (·, m)
  | .choose => x.choose?.map (·, m)
  | .finalize reply => x.finalize? m reply
  | .finish _ => x.finish?.map (·, m)
  | .receive => x.receive?.map fun (_, x) => (x, m)
  | .stopListening => x.stopListening?.map (·, m)

end Execution

end JobNode.Manager
