import JobNode.Queue.Server

/-!
# Starting a server that others are using

A call that starts a server holds the lock of the server while it looks at it.  When the start is
refused the call reports the refusal to a channel of its caller, and keeps the lock until the
channel has taken the report.  The channel takes it once there is room, or once nobody is left to
read it.
-/

namespace JobNode

/-- A channel for reports of refused starts. -/
structure ReportChannel where
  capacity : Nat
  /-- The reports that nobody has read. -/
  unread : List QueueError
  /-- Nobody is left to read a report. -/
  abandoned : Bool
  deriving DecidableEq

namespace ReportChannel

/-- A channel that nothing was sent to. -/
def create (capacity : Nat) : ReportChannel := ⟨capacity, [], false⟩

/-- The channel takes another report. -/
def hasRoom (c : ReportChannel) : Bool := c.abandoned || c.unread.length < c.capacity

/-- The channel with another report, which is lost if nobody is left to read it. -/
def put (c : ReportChannel) (report : QueueError) : ReportChannel :=
  if c.abandoned then c else { c with unread := c.unread ++ [report] }

/-- The channel without its oldest report. -/
def read (c : ReportChannel) : ReportChannel := { c with unread := c.unread.drop 1 }

/-- The channel without its reader. -/
def abandon (c : ReportChannel) : ReportChannel := { c with abandoned := true }

end ReportChannel

/-- How far a call that starts a server has come. -/
inductive StartCall where
  /-- Waiting for the lock. -/
  | waiting (channel : ReportChannel)
  /-- Refused, and about to report that. -/
  | reporting (refusal : QueueError) (channel : ReportChannel)
  /-- Accepted. -/
  | serving (channel : ReportChannel)
  | returned (channel : ReportChannel)
  deriving DecidableEq

namespace StartCall

/-- The channel for the report of the call. -/
def channel : StartCall → ReportChannel
  | waiting c | reporting _ c | serving c | returned c => c

/-- The call after something has happened to its channel. -/
def onChannel (f : ReportChannel → ReportChannel) : StartCall → StartCall
  | waiting c => waiting (f c)
  | reporting refusal c => reporting refusal (f c)
  | serving c => serving (f c)
  | returned c => returned (f c)

end StartCall

/-- A server with the calls that start it. -/
structure SharedServer (τ : Type) where
  server : Server τ
  calls : List StartCall
  /-- The call that holds the lock across a wait. -/
  holder : Option Nat

namespace SharedServer

variable {τ : Type}

/-- A server that nobody has called. -/
def create (settings : QueueSettings) : SharedServer τ := ⟨.create settings, [], none⟩

/-- A step of a call, of the reader of its channel or of the server. -/
inductive Event (τ : Type) where
  /-- A call comes in, with a channel for its report. -/
  | call (channel : ReportChannel)
  /-- A call gets the lock and starts the server, or is refused. -/
  | enter (i : Nat)
  /-- A refused call reports, releases the lock and returns. -/
  | report (i : Nat)
  /-- Somebody reads a report. -/
  | read (i : Nat)
  /-- The one who would read the report is gone. -/
  | abandon (i : Nat)
  /-- The server goes on; what looks at its state needs the lock. -/
  | server (e : Server.Event τ)

/-- The step of the server needs its lock. -/
def needsLock : Server.Event τ → Bool
  | .register _ _ _ | .enqueue _ _ _ _ | .halt => true
  | _ => false

/-- Something happens to the channel of a call. -/
def onChannel (s : SharedServer τ) (i : Nat) (f : ReportChannel → ReportChannel) :
    Option (SharedServer τ) :=
  (s.calls[i]?).map fun call => { s with calls := s.calls.set i (call.onChannel f) }

/-- One step; none if it cannot happen. -/
def apply (s : SharedServer τ) : Event τ → Option (SharedServer τ)
  | .call channel => some { s with calls := s.calls ++ [.waiting channel] }
  | .enter i =>
    match s.calls[i]?, s.holder with
    | some (.waiting channel), none =>
      match s.server.start with
      | .ok server => some { s with server, calls := s.calls.set i (.serving channel) }
      | .error refusal =>
        some { s with calls := s.calls.set i (.reporting refusal channel), holder := some i }
    | _, _ => none
  | .report i =>
    match s.calls[i]? with
    | some (.reporting refusal channel) =>
      if channel.hasRoom then
        some { s with calls := s.calls.set i (.returned (channel.put refusal)), holder := none }
      else none
    | _ => none
  | .read i => s.onChannel i .read
  | .abandon i => s.onChannel i .abandon
  | .server e =>
    match e with
    | .start => none
    | e =>
      if needsLock e && s.holder.isSome then none
      else (s.server.apply e).map fun server => { s with server }

/-- The report that waits in the channel of a call. -/
def report? (s : SharedServer τ) (i : Nat) : Option QueueError :=
  match s.calls[i]? with
  | some (.returned channel) => channel.unread.head?
  | _ => none

end SharedServer

end JobNode
