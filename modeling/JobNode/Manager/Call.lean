import JobNode.Manager.Finalizer

/-!
# Calls

A call opens a job, starts its work and hands the caller a channel that takes one outcome.  The
channel closes after that outcome, and an outcome whose receiver is gone is dropped.
-/

namespace JobNode.Manager

/-- The channel of a call. -/
inductive DoneChannel where
  /-- Nothing was sent. -/
  | empty
  /-- The outcome waits for the receiver. -/
  | full (outcome : Except Error Unit)
  /-- The outcome was sent, and nothing waits. -/
  | closed

/-- What a receiver finds in a channel. -/
inductive Received where
  | nothing
  | outcome (value : Except Error Unit)
  | closed

namespace DoneChannel

/-- Take what waits in the channel. -/
def receive : DoneChannel → Received × DoneChannel
  | empty => (.nothing, empty)
  | full outcome => (.outcome outcome, closed)
  | closed => (.closed, closed)

end DoneChannel

/-- How far a call has come. -/
inductive CallPhase where
  /-- Watching the work and the cancellation. -/
  | watching
  /-- Finalizing one way. -/
  | finalizing (branch : Branch)
  /-- The outcome was sent. -/
  | ended (result : Finalized)

/-- A call with an open job. -/
structure Call where
  assignment : Assignment
  /-- The end of the work, once it has ended. -/
  work : Option WorkEnd
  cancelled : Bool
  phase : CallPhase
  channel : DoneChannel
  /-- Somebody may still receive the outcome. -/
  listening : Bool

namespace Call

/-- A call whose work starts. -/
def create (a : Assignment) : Call where
  assignment := a
  work := none
  cancelled := false
  phase := .watching
  channel := .empty
  listening := true

/-- The work ends; only its first end counts. -/
def endWork (c : Call) (last : WorkEnd) : Call :=
  { c with work := c.work.or (some last) }

/-- The call is cancelled. -/
def cancel (c : Call) : Call := { c with cancelled := true }

/-- The receiver goes away. -/
def stopListening (c : Call) : Call := { c with listening := false }

/-- Choose the way to finalize; none while neither the work has ended nor the call was
cancelled, and after the choice. -/
def choose? (c : Call) : Option (Branch × Call) :=
  match c.phase with
  | .watching =>
    (branch? c.work c.cancelled).map fun branch => (branch, { c with phase := .finalizing branch })
  | _ => none

/-- Send the outcome; none before the way was chosen and after the outcome was sent. -/
def finish? (c : Call) (result : Finalized) : Option Call :=
  match c.phase with
  | .finalizing _ =>
    some
      { c with
        phase := .ended result
        channel := if c.listening then .full result.outcome else .closed }
  | _ => none

/-- Receive from the channel. -/
def receive (c : Call) : Received × Call :=
  let (received, channel) := c.channel.receive
  (received, { c with channel })

end Call

end JobNode.Manager
