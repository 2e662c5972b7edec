import JobNode.Manager.Traffic

/-!
# Waiting for jobs

A caller that waits for a job looks at it until it has an answer, and pauses after every look that
finds the job pending.  Any number of callers wait beside the traffic of a manager.  Each look is one
more question to the store, and may fail like any other.
-/

namespace JobNode.Manager

/-- How far a caller that waits for a job has come. -/
inductive Watch where
  | looking (rest : Procedure (Except Error StatusReport))
  /-- The next look is not due yet. -/
  | pausing
  | answered (answer : Except Error Unit)

/-- A caller that waits for a job. -/
structure Waiter where
  key : JobKey
  watch : Watch

namespace Waiter

/-- A caller that begins to wait. -/
def create (key : JobKey) : Waiter := ⟨key, .looking (getStatus key)⟩

/-- What the caller does when a look has come so far: it goes on looking, and at the end of the look
it has an answer or pauses. -/
def turn (key : JobKey) : Procedure (Except Error StatusReport) → Watch
  | .done seen =>
    match waitAnswer? key seen with
    | some answer => .answered answer
    | none => .pausing
  | rest => .looking rest

/-- A look goes one answer further. -/
def look? (x : Waiter) (m : Memory) (reply : Procedure.Reply) : Option (Waiter × Memory) :=
  match x.watch with
  | .looking rest =>
    (rest.advance? m reply).map fun (rest, m) => ({ x with watch := turn x.key rest }, m)
  | _ => none

/-- The pause is over. -/
def wake? (x : Waiter) : Option Waiter :=
  match x.watch with
  | .pausing => some (create x.key)
  | _ => none

end Waiter

/-- A manager and the callers that wait for its jobs. -/
structure Waiting where
  traffic : Traffic
  waiters : List Waiter

namespace Waiting

/-- Nobody waits yet. -/
def create (m : Memory) (maxInflight : Nat) : Waiting := ⟨.create m maxInflight, []⟩

/-- A step of the manager or of a caller. -/
inductive Event where
  | traffic (e : Traffic.Event)
  /-- A caller begins to wait. -/
  | wait (key : JobKey)
  /-- The look of a caller goes one answer further. -/
  | look (w : Nat) (reply : Procedure.Reply)
  /-- The pause of a caller is over. -/
  | wake (w : Nat)

/-- One step; none if it cannot happen. -/
def apply (s : Waiting) : Event → Option Waiting
  | .traffic e => (s.traffic.apply e).map fun traffic => { s with traffic }
  | .wait key => some { s with waiters := s.waiters ++ [.create key] }
  | .look w reply =>
    match s.waiters[w]? with
    | some x =>
      (x.look? s.traffic.memory reply).map fun (y, memory) =>
        { traffic := { s.traffic with memory }, waiters := s.waiters.set w y }
    | none => none
  | .wake w =>
    match s.waiters[w]? with
    | some x => x.wake?.map fun y => { s with waiters := s.waiters.set w y }
    | none => none

end Waiting

end JobNode.Manager
