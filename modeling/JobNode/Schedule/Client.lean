import JobNode.Schedule.Workshop

/-!
# Clients of a manager

What a client does with the manager of a workshop while its threads run.  The threads go on only
while the client waits; whatever else the client does happens at one time.
-/

namespace JobNode.Schedule

/-- A client of a workshop whose threads run. -/
structure Client where
  run : Threads Workshop Errand
  /-- The calls whose channels the client holds, by the names they were given. -/
  channels : List (String × Nat) := []

namespace Client

/-- The client of a new workshop. -/
def create (shop : Workshop) : Client where
  run := { state := shop }

/-- The workshop. -/
def shop (c : Client) : Workshop := c.run.state

/-- Change the workshop at one time. -/
def change (c : Client) (f : Workshop → Workshop) : Client :=
  { c with run := { c.run with state := f c.run.state } }

/-- Wait until the workshop is as wanted, but not past some time. -/
def await (c : Client) (wanted : Workshop → Bool) (deadline : Nat) : Client :=
  match c.run.runUntil Workshop.rules wanted (some deadline) Threads.maxMoves with
  | some (_, run) => { c with run }
  | none => c

/-- Let some time pass. -/
def pass (c : Client) (d : Duration) : Client := { c with run := c.run.pass Workshop.rules d }

/-- Give a signal. -/
def give (c : Client) (signal : String) : Client := c.change fun s => s.give signal

/-- Carry out a procedure of the manager. -/
def carryOut {α : Type} (c : Client) (p : Procedure α) : α × Client :=
  let (answer, s) := c.shop.carryOut c.run.now p
  (answer, c.change fun _ => s)

/-! ## Calls -/

/-- Call the manager; the answer is the job and whether it has another identifier than the one that
was asked for. -/
def execute (c : Client) (r : Workshop.Request) : Except Error (JobId × Bool) × Client :=
  match c.shop.execute c.run.now r with
  | (.error e, _, s) => (.error e, c.change fun _ => s)
  | (.ok (i, id), errands, s) =>
    (.ok (id, r.existing != some id),
      { c with
        run := Threads.start { c.run with state := s } errands
        channels := (r.label, i) :: c.channels.filter (·.1 != r.label) })

/-- Receive from a channel, and wait for it at most for some time; none if the client does not hold
the channel. -/
def receive? (c : Client) (label : String) (limit : Option Duration) :
    Option Manager.Received × Client :=
  match c.channels.lookup label with
  | none => (none, c)
  | some i =>
    let c := match limit with
      | some d => c.await (·.hasOutcome i) (timerAt c.run.now d)
      | none => c
    let (received, s) := c.shop.receive i
    (some received, c.change fun _ => s)

/-- Drop a channel; the answer says whether the client held it. -/
def drop (c : Client) (label : String) : Bool × Client :=
  match c.channels.lookup label with
  | none => (false, c)
  | some i =>
    (true,
      { c.change fun s =>
          match s.call? i with
          | some call => s.setCall i call.stopListening
          | none => s with
        channels := c.channels.filter (·.1 != label) })

/-! ## Waiting for jobs -/

/-- One look of each waiter that has no answer yet. -/
def lookAll (c : Client) (key : JobKey) :
    List (Option (Except Error Unit)) → List (Option (Except Error Unit)) × Client
  | [] => ([], c)
  | some answer :: rest =>
    let (rest, c) := c.lookAll key rest
    (some answer :: rest, c)
  | none :: rest =>
    let (answer, s) := c.shop.lookAt c.run.now key
    let (rest, c) := (c.change fun _ => s).lookAll key rest
    (answer :: rest, c)

/-- Look until every waiter has an answer or the time is up, at most `fuel` times. -/
def waitFrom (key : JobKey) (deadline : Nat) :
    Nat → List (Option (Except Error Unit)) → Client → Option (List (Except Error Unit)) × Client
  | 0, _, c => (none, c)
  | fuel + 1, waiters, c =>
    let (waiters, c) := c.lookAll key waiters
    match waiters.mapM id with
    | some answers => (some answers, c)
    | none =>
      if deadline ≤ c.run.now then (none, c)
      else
        let next := c.shop.nextLook c.run.now
        let c := c.await (fun _ => false) (min next deadline)
        if next ≤ deadline then waitFrom key deadline fuel waiters c else (none, c)

/-- Wait for a job with several waiters at once; none if the time is up before all of them have an
answer. -/
def waitFor (c : Client) (key : JobKey) (count : Nat) (limit : Duration) :
    Option (List (Except Error Unit)) × Client :=
  let deadline := timerAt c.run.now limit
  waitFrom key deadline ((deadline - c.run.now) / 1000000 + 2) (List.replicate count none) c

/-! ## The store -/

/-- Save a job straight into the store. -/
def seed (c : Client) (job : Job) : Except Error Unit × Client :=
  let (answer, s) := c.shop.saveJob c.run.now job
  (answer, c.change fun _ => s)

/-- Insert a row straight into the store. -/
def insertRow (c : Client) (row : Row) : Except Error Unit × Client :=
  match c.shop.store.insertRow row with
  | .ok store => (.ok (), c.change fun s => { s with store })
  | .error e => (.error e, c)

/-- Close the connections of the store. -/
def close (c : Client) : Client := c.change fun s => { s with store := s.store.close }

/-! ## Messages -/

/-- The messages that the sender was called with, in order. -/
def messages (s : Workshop) : List (Notification × Manager.DeliveryState) :=
  s.deliveries.messages.filter fun m =>
    match m.2 with
    | .waiting => false
    | _ => true

/-- Wait until the sender was called so many times, at most for some time. -/
def awaitMessages (c : Client) (count : Nat) (limit : Duration) : Client :=
  c.await (fun s => count ≤ (messages s).length) (timerAt c.run.now limit)

/-- The jobs that calls have created, with the names of the calls. -/
def created (c : Client) : List (JobId × String) :=
  c.shop.names.reverse.filterMap fun (name, id) =>
    if c.shop.calls.any fun w => w.call.assignment.created && w.call.assignment.id = id then
      some (id, name)
    else none

end Client

end JobNode.Schedule
