import JobNode.Error
import JobNode.Notification

/-!
# Delivering messages

Messages are delivered side by side, but only so many at a time: a message waits for a slot, takes
it to be sent, and gives it back however the sending ends.  Sending may take as long as the timeout
allows.  The slots are counted and know nothing of the messages, and there is a most that can be
counted.
-/

namespace JobNode.Manager

/-- How the sending of a message ends. -/
inductive Delivery where
  | sent
  /-- The sender delivers nothing. -/
  | disabled
  | failed (cause : Error)
  | timedOut
  | panicked

/-- Where a message is. -/
inductive DeliveryState where
  | waiting
  | sending
  | finished (result : Delivery)

/-- The messages of a manager and the slots for sending them. -/
structure Deliveries where
  /-- Number of slots that are free. -/
  free : Nat
  /-- All messages, in the order they were handed over. -/
  messages : List (Notification × DeliveryState)

namespace Deliveries

/-- The most slots there can be: 2⁶¹ - 1. -/
def maxSlots : Nat := 2305843009213693951

/-- No messages, and at least one slot. -/
def create (maxInflight : Nat) : Deliveries where
  free := max maxInflight 1
  messages := []

/-- The same, unless more slots are asked for than there can be. -/
def create? (maxInflight : Nat) : Option Deliveries :=
  if maxInflight ≤ maxSlots then some (create maxInflight) else none

/-- The message is being sent. -/
def isSending : Notification × DeliveryState → Bool
  | (_, .sending) => true
  | _ => false

/-- Number of messages that are being sent. -/
def inflight (d : Deliveries) : Nat := d.messages.countP isSending

/-- A message may start to be sent. -/
def hasSlot (d : Deliveries) : Bool := 0 < d.free

/-- Hand over a message. -/
def dispatch (d : Deliveries) (message : Notification) : Deliveries :=
  { d with messages := d.messages ++ [(message, .waiting)] }

/-- The deliveries with another state of one message. -/
def setState (d : Deliveries) (i : Nat) (message : Notification) (state : DeliveryState) :
    Deliveries :=
  { d with messages := d.messages.set i (message, state) }

/-- The deliveries with one free slot less. -/
def take (d : Deliveries) : Deliveries := { d with free := d.free - 1 }

/-- The deliveries with one free slot more. -/
def giveBack (d : Deliveries) : Deliveries := { d with free := d.free + 1 }

@[simp] theorem messages_take (d : Deliveries) : d.take.messages = d.messages := rfl

@[simp] theorem messages_giveBack (d : Deliveries) : d.giveBack.messages = d.messages := rfl

/-- A waiting message takes a slot; none if there is no free one or the message does not wait. -/
def begin? (d : Deliveries) (i : Nat) : Option Deliveries :=
  match d.messages[i]? with
  | some (message, .waiting) =>
    if d.hasSlot then some (d.take.setState i message .sending) else none
  | _ => none

/-- The sending of a message ends, and it gives its slot back; none if it is not being sent. -/
def finish? (d : Deliveries) (i : Nat) (result : Delivery) : Option Deliveries :=
  match d.messages[i]? with
  | some (message, .sending) => some (d.giveBack.setState i message (.finished result))
  | _ => none

end Deliveries

end JobNode.Manager
