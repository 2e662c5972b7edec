import JobNode.Manager.Call
import JobNode.Manager.Delivery
import JobNode.Schedule.Basic
import JobNode.Schedule.Work
import JobNode.Settings.Basic
import JobNode.Store.Basic

/-!
# Managers on a clock

A workshop is a manager with its store and its messages, together with what surrounds it: signals,
the notes of works, a sender of messages that behaves in some way, and faults that let some reads
and saves fail.  Its threads are the works of jobs, the finalizers that watch them, and the
deliveries of messages; their turns are made of the procedures of the manager and the steps of
calls and deliveries.
-/

namespace JobNode.Schedule

open Manager

/-- Where a workshop keeps its jobs. -/
inductive Medium where
  | memory
  /-- A database in memory. -/
  | volatile
  /-- A database in a file. -/
  | file
  deriving DecidableEq

namespace Medium

/-- A store without jobs. -/
def fresh : Medium → Store
  | memory => .memory .empty
  | volatile | file => .database .empty true

/-- The store that is found when it is opened again: only a file outlives its connections. -/
def reopen : Medium → Store → Store
  | file, .database jobs _ => .database jobs true
  | m, _ => m.fresh

end Medium

/-- How the sender of messages behaves. -/
inductive Sender where
  | delivers
  | fails (cause : Error)
  | hangs
  | slow (d : Duration)
  | disabled
  | panics

/-- Reads and saves that fail, by their number from 1 on. -/
structure Faults where
  get : List (Nat × Error) := []
  save : List (Nat × Error) := []

/-- A call and the signal that cancels it. -/
structure WatchedCall where
  call : Call
  signal? : Option String

/-- Everything that the threads share. -/
structure Workshop where
  settings : JobSettings
  medium : Medium
  sender : Sender
  faults : Faults
  store : Store
  /-- Number of reads and saves of the manager. -/
  gets : Nat := 0
  saves : Nat := 0
  /-- The signals that were given. -/
  signals : List String := []
  calls : List WatchedCall := []
  /-- The names that calls were given, with their jobs, the latest first. -/
  names : List (String × JobId) := []
  deliveries : Deliveries
  notes : List Note := []
  /-- Number of looks at the calendar. -/
  looks : Nat := 0
  /-- Number of identifiers given out. -/
  identifiers : Nat := 0

/-- Where a delivery stands. -/
inductive DeliveryStage where
  | waiting
  /-- The message is sent at some time, if ever, and given up at another. -/
  | sending (ready? : Option Nat) (limit : Nat)

/-- A thread of a workshop. -/
inductive Errand where
  | work (call : Nat) (pause? : Option WorkPause) (rest : List Action)
  | finalizer (call : Nat)
  | delivery (message : Nat) (stage : DeliveryStage)

namespace Workshop

/-- A workshop at work for the first time. -/
def create (settings : JobSettings) (medium : Medium) (sender : Sender) (faults : Faults) :
    Workshop where
  settings := settings
  medium := medium
  sender := sender
  faults := faults
  store := medium.fresh
  deliveries := .create settings.maxInflight

/-- The same, unless more messages may be sent at a time than there can be slots for. -/
def create? (settings : JobSettings) (medium : Medium) (sender : Sender) (faults : Faults) :
    Option Workshop :=
  (Deliveries.create? settings.maxInflight).map fun deliveries =>
    { create settings medium sender faults with deliveries }

/-- A new manager over the store that is found when it is opened again; the messages that were
handed over stay on record. -/
def reopen (s : Workshop) : Workshop :=
  { s with store := s.medium.reopen s.store, gets := 0, saves := 0 }

/-- Look at the calendar. -/
def look (s : Workshop) (now : Nat) : Instant × Workshop :=
  (dateAt now s.looks, { s with looks := s.looks + 1 })

/-- Save a job in the store. -/
def saveJob (s : Workshop) (now : Nat) (job : Job) : Except Error Unit × Workshop :=
  let (date, s) := s.look now
  match s.store.save job date with
  | .ok store => (.ok (), { s with store })
  | .error e => (.error e, s)

/-- The surroundings of the procedures of the manager. -/
def surroundings (now : Nat) : Procedure.Surroundings Workshop where
  get s key :=
    let s := { s with gets := s.gets + 1 }
    match s.faults.get.lookup s.gets with
    | some e => (.error e, s)
    | none => (s.store.get key, s)
  save s job :=
    let s := { s with saves := s.saves + 1 }
    match s.faults.save.lookup s.saves with
    | some e => (.error e, s)
    | none => s.saveJob now job
  now s := s.look now
  newId s := (⟨freshUuid s.identifiers⟩, { s with identifiers := s.identifiers + 1 })

/-- Carry out a procedure of the manager. -/
def carryOut {α : Type} (s : Workshop) (now : Nat) (p : Procedure α) : α × Workshop :=
  p.run (surroundings now) s

/-- The signal was given. -/
def isGiven (s : Workshop) (signal : String) : Bool := s.signals.contains signal

/-- The job of a name. -/
def jobOf (s : Workshop) (name : String) : Except Error JobId :=
  match s.names.lookup name with
  | some id => .ok id
  | none => JobId.read name

/-- Change one call. -/
def setCall (s : Workshop) (i : Nat) (call : Call) : Workshop :=
  { s with calls := s.calls.modify i fun w => { w with call } }

/-- One of the calls. -/
def call? (s : Workshop) (i : Nat) : Option Call := (s.calls[i]?).map WatchedCall.call

/-- Give a signal, which cancels the calls that wait for it. -/
def give (s : Workshop) (signal : String) : Workshop :=
  { s with
    signals := signal :: s.signals
    calls := s.calls.map fun w =>
      if w.signal? = some signal then { w with call := w.call.cancel } else w }

/-! ## Calls -/

/-- A call as it comes in. -/
structure Request where
  /-- The name that the call is given. -/
  label : String
  account : AccountId
  existing : Option JobId
  description : String
  signal? : Option String
  work : List Action

/-- Open the job of a call and start its threads. -/
def execute (s : Workshop) (now : Nat) (r : Request) :
    Except Error (Nat × JobId) × List Errand × Workshop :=
  match s.carryOut now (openJob r.account r.existing r.description) with
  | (.error e, s) => (.error e, [], s)
  | (.ok (job, created), s) =>
    let i := s.calls.length
    let call := Call.create ⟨r.account, job.id, job.description, created⟩
    let call := if r.signal?.any s.isGiven then call.cancel else call
    (.ok (i, job.id), [.work i none r.work, .finalizer i],
      { s with
        calls := s.calls ++ [⟨call, r.signal?⟩]
        names := (r.label, job.id) :: s.names })

/-- One look of a caller that waits for a job. -/
def lookAt (s : Workshop) (now : Nat) (key : JobKey) : Option (Except Error Unit) × Workshop :=
  let (answer, s) := s.carryOut now (getStatus key)
  (waitAnswer? key answer, s)

/-- The time of the next look at a job that is waited for.  There is at least a millisecond
between two looks. -/
def nextLook (s : Workshop) (now : Nat) : Nat :=
  max (timerAt now s.settings.pollInterval) (now + 1000000)

/-- Receive from the channel of a call; nothing comes to a receiver that has gone away. -/
def receive (s : Workshop) (i : Nat) : Received × Workshop :=
  match s.call? i with
  | none => (.closed, s)
  | some call =>
    if call.listening then
      let (received, call) := call.receive
      (received, s.setCall i call)
    else (.closed, s)

/-- Something was sent to the channel of a call. -/
def hasOutcome (s : Workshop) (i : Nat) : Bool :=
  match (s.call? i).map Call.channel with
  | some .empty => false
  | _ => true

/-! ## Work -/

/-- What work comes to that runs until it has to wait. -/
structure Progress where
  shop : Workshop
  started : List Errand
  next : WorkPause × List Action ⊕ WorkEnd

namespace Progress

/-- The work ends. -/
def ended (shop : Workshop) (started : List Errand) (last : WorkEnd) : Progress :=
  ⟨shop, started, .inr last⟩

/-- The work waits. -/
def paused (shop : Workshop) (started : List Errand) (pause : WorkPause)
    (rest : List Action) : Progress :=
  ⟨shop, started, .inl (pause, rest)⟩

/-- The work goes on, unless the answer is an error. -/
def after (answer : Except Error Unit) (shop : Workshop) (started : List Errand)
    (next : Workshop → Progress) : Progress :=
  match answer with
  | .ok () => next shop
  | .error e => ended shop started (.error e.message)

end Progress

/-- Change a job on behalf of some work, the own job or another one. -/
def changeFor (s : Workshop) (now : Nat) (own : JobKey) (job? : Option String)
    (p : JobKey → Procedure (Except Error Unit)) : Except Error Unit × Workshop :=
  match job? with
  | none => s.carryOut now (p own)
  | some name =>
    match s.jobOf name with
    | .ok id => s.carryOut now (p ⟨own.account, id⟩)
    | .error e => (.error e, s)

/-- Take a note about a job. -/
def takeNote (s : Workshop) (now : Nat) (key : JobKey) : Except Error Unit × Workshop :=
  match s.carryOut now (getJob key) with
  | (.ok job, s) => (.ok (), { s with notes := s.notes ++ [⟨key, job.status, job.logs.length⟩] })
  | (.error e, s) => (.error e, s)

/-- Go on with work that waits for a job, if one look at it is enough. -/
def progressAfterLook (s : Workshop) (now : Nat) (key : JobKey) (started : List Errand)
    (rest : List Action) (next : Workshop → Progress) : Progress :=
  match s.lookAt now key with
  | (some answer, s) => .after answer s started next
  | (none, s) => .paused s started (.look key (s.nextLook now)) rest

/-- Do the actions of work on a job until it has to wait or ends. -/
def perform (now : Nat) (own : JobKey) :
    List Action → List Errand → Workshop → Progress
  | [], started, s => .ended s started (.ok ())
  | .sleep d :: rest, started, s =>
    if timerAt now d ≤ now then perform now own rest started s
    else .paused s started (.until (timerAt now d)) rest
  | .gate signal :: rest, started, s =>
    if s.isGiven signal then perform now own rest started s
    else .paused s started (.gate signal) rest
  | .never :: rest, started, s => .paused s started .forever rest
  | .succeed :: _, started, s => .ended s started (.ok ())
  | .fail message :: _, started, s => .ended s started (.error message)
  | .panic message :: _, started, s => .ended s started (panicEnd message)
  | .task job? status task message :: rest, started, s =>
    let (answer, s) := s.changeFor now own job? fun key => updateTask key status task message
    .after answer s started (perform now own rest started)
  | .value job? name bytes :: rest, started, s =>
    let (answer, s) := s.changeFor now own job? fun key => updateValue key name bytes
    .after answer s started (perform now own rest started)
  | .note :: rest, started, s =>
    let (answer, s) := s.takeNote now own
    .after answer s started (perform now own rest started)
  | .await name :: rest, started, s =>
    match s.jobOf name with
    | .error e => .ended s started (.error e.message)
    | .ok id =>
      s.progressAfterLook now ⟨own.account, id⟩ started rest (perform now own rest started)
  | .nested label account? description signal? wait work :: rest, started, s =>
    match account?.elim (.ok own.account) AccountId.read with
    | .error e => .ended s started (.error e.message)
    | .ok account =>
      match s.execute now ⟨label, account, none, description, signal?, work⟩ with
      | (.error e, _, s) => .ended s started (.error e.message)
      | (.ok (i, _), errands, s) =>
        if wait then .paused s (started ++ errands) (.outcome i) rest
        else perform now own rest (started ++ errands) s

/-- Go on with work whose pause is over. -/
def resume (s : Workshop) (now : Nat) (own : JobKey) (pause? : Option WorkPause)
    (rest : List Action) : Progress :=
  match pause? with
  | some (.look key _) => s.progressAfterLook now key [] rest (perform now own rest [])
  | some (.outcome i) =>
    match s.receive i with
    | (.outcome answer, s) => .after answer s [] (perform now own rest [])
    | (_, s) => perform now own rest [] s
  | _ => perform now own rest [] s

/-! ## Deliveries -/

/-- No message before this one waits for a slot. -/
def isNext (s : Workshop) (message : Nat) : Bool :=
  (s.deliveries.messages.take message).all fun m =>
    match m.2 with
    | .waiting => false
    | _ => true

/-- The message may start to be sent. -/
def maySend (s : Workshop) (message : Nat) : Bool :=
  s.isNext message && s.deliveries.hasSlot

/-- The sending of a message ends. -/
def endDelivery (s : Workshop) (message : Nat) (result : Delivery) : Turn Workshop Errand :=
  ⟨{ s with deliveries := (s.deliveries.finish? message result).getD s.deliveries }, none, []⟩

/-- Go on with the sending of a message; it is given up only if it is not sent by then. -/
def goOnSending (s : Workshop) (now message : Nat) (ready? : Option Nat) (limit : Nat) :
    Turn Workshop Errand :=
  if ready?.any (· ≤ now) then s.endDelivery message .sent
  else if limit ≤ now then s.endDelivery message .timedOut
  else ⟨s, some (.delivery message (.sending ready? limit)), []⟩

/-- Hand a message to the sender. -/
def beginDelivery (s : Workshop) (now message : Nat) : Turn Workshop Errand :=
  let limit := timerAt now s.settings.notificationTimeout
  match s.sender with
  | .delivers => s.endDelivery message .sent
  | .fails cause => s.endDelivery message (.failed cause)
  | .disabled => s.endDelivery message .disabled
  | .panics => s.endDelivery message .panicked
  | .hangs => s.goOnSending now message none limit
  | .slow d => s.goOnSending now message (some (timerAt now d)) limit

/-! ## Turns -/

/-- The thread can go on. -/
def isReady (now : Nat) (s : Workshop) : Errand → Bool
  | .work _ pause? _ =>
    match pause? with
    | none => true
    | some (.until time) => time ≤ now
    | some (.gate signal) => s.isGiven signal
    | some .forever => false
    | some (.look _ time) => time ≤ now
    | some (.outcome i) => s.hasOutcome i
  | .finalizer i => ((s.call? i).bind Call.choose?).isSome
  | .delivery message .waiting => s.maySend message
  | .delivery _ (.sending ready? limit) => ready?.any (· ≤ now) || limit ≤ now

/-- The time at which the thread goes on whatever happens. -/
def alarm? : Errand → Option Nat
  | .work _ (some (.until time)) _ => some time
  | .work _ (some (.look _ time)) _ => some time
  | .delivery _ (.sending (some ready) limit) => some (min ready limit)
  | .delivery _ (.sending none limit) => some limit
  | _ => none

/-- A turn of some work. -/
def workTurn (s : Workshop) (now i : Nat) (pause? : Option WorkPause) (rest : List Action) :
    Turn Workshop Errand :=
  match s.call? i with
  | none => ⟨s, none, []⟩
  | some call =>
    let p := s.resume now call.assignment.key pause? rest
    match p.next with
    | .inl (pause, rest) => ⟨p.shop, some (.work i (some pause) rest), p.started⟩
    | .inr last =>
      let call := ((p.shop.call? i).getD call).endWork last
      ⟨p.shop.setCall i call, none, p.started⟩

/-- Hand over the message about a finalized job, if there is one. -/
def announce (s : Workshop) (now : Nat) (a : Assignment) (f : Finalized) :
    Turn Workshop Errand :=
  let (date, s) := s.look now
  match announcement? a f date with
  | none => ⟨s, none, []⟩
  | some message =>
    let i := s.deliveries.messages.length
    ⟨{ s with deliveries := s.deliveries.dispatch message }, none, [.delivery i .waiting]⟩

/-- A turn of a finalizer. -/
def finalizerTurn (s : Workshop) (now i : Nat) : Turn Workshop Errand :=
  match s.call? i with
  | none => ⟨s, none, []⟩
  | some call =>
    match call.choose? with
    | none => ⟨s, some (.finalizer i), []⟩
    | some (branch, call) =>
      let (f, s) := s.carryOut now (finalize call.assignment branch)
      (s.setCall i ((call.finish? f).getD call)).announce now call.assignment f

/-- A turn of a delivery. -/
def deliveryTurn (s : Workshop) (now message : Nat) : DeliveryStage → Turn Workshop Errand
  | .waiting =>
    match s.deliveries.begin? message with
    | some deliveries =>
      if s.isNext message then { s with deliveries }.beginDelivery now message
      else ⟨s, some (.delivery message .waiting), []⟩
    | none => ⟨s, some (.delivery message .waiting), []⟩
  | .sending ready? limit => s.goOnSending now message ready? limit

/-- A turn of a thread. -/
def turn (now : Nat) (s : Workshop) : Errand → Turn Workshop Errand
  | .work i pause? rest => s.workTurn now i pause? rest
  | .finalizer i => s.finalizerTurn now i
  | .delivery message stage => s.deliveryTurn now message stage

/-- How the threads of a workshop run. -/
def rules : Rules Workshop Errand where
  isReady := isReady
  alarm? := alarm?
  turn := turn

end Workshop

end JobNode.Schedule
