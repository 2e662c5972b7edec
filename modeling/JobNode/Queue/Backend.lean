import JobNode.Keyed
import JobNode.Queue.Submission

/-!
# Outcomes of submissions

The backend keeps the outcome of a submission until its handle is dropped.  A handle that is
dropped first leaves a mark, so that the outcome is not kept when it arrives.

* `set_of_abandoned`, `set_of_not_abandoned`: what an outcome does to the slot of its submission.
* `forget_of_done`, `forget_of_none`: what a dropped handle does to it.
-/

namespace JobNode

/-- What a submission came to. -/
abbrev Outcome := Except QueueError Json

/-- What the backend holds for one submission. -/
inductive Slot where
  /-- The outcome waits to be collected. -/
  | done (outcome : Outcome)
  /-- The handle was dropped before the outcome arrived. -/
  | abandoned

/-- Outcomes and marks by submission. -/
structure Backend where
  slots : Keyed TaskId Slot

namespace Backend

/-- A backend that holds nothing. -/
def empty : Backend := ⟨.empty⟩

instance : Inhabited Backend := ⟨empty⟩

/-- Record an outcome, or clear the mark of a dropped handle. -/
def set (b : Backend) (id : TaskId) (outcome : Outcome) : Backend :=
  match b.slots.find? id with
  | some .abandoned => ⟨b.slots.erase id⟩
  | _ => ⟨b.slots.put id (.done outcome)⟩

/-- Drop the outcome, or leave a mark where there is none yet. -/
def forget (b : Backend) (id : TaskId) : Backend :=
  match b.slots.find? id with
  | some (.done _) => ⟨b.slots.erase id⟩
  | some .abandoned => b
  | none => ⟨b.slots.put id .abandoned⟩

/-- The outcome of a submission, if it has arrived and is kept. -/
def outcome? (b : Backend) (id : TaskId) : Option Outcome :=
  match b.slots.find? id with
  | some (.done outcome) => some outcome
  | _ => none

/-- The handle of a submission was dropped, and its outcome has not arrived. -/
def isAbandoned (b : Backend) (id : TaskId) : Bool :=
  match b.slots.find? id with
  | some .abandoned => true
  | _ => false

/-- Number of submissions that something is held for. -/
def size (b : Backend) : Nat := b.slots.size

/-- What a caller gets that waits for an outcome: the outcome as soon as there is one, and a timeout
if the time is up before. -/
def answer? (b : Backend) (id : TaskId) (limit : Duration) (timeUp : Bool) : Option Outcome :=
  match b.outcome? id with
  | some outcome => some outcome
  | none => if timeUp then some (.error (.timeout id.toText limit)) else none

theorem set_of_abandoned {b : Backend} {id : TaskId} (h : b.slots.find? id = some .abandoned)
    (outcome : Outcome) : (b.set id outcome).slots.find? id = none := by
  simp [set, h]

theorem set_of_not_abandoned {b : Backend} {id : TaskId} (h : b.slots.find? id ≠ some .abandoned)
    (outcome : Outcome) : (b.set id outcome).slots.find? id = some (.done outcome) := by
  unfold set
  split
  next e => exact absurd e h
  · simp

theorem forget_of_done {b : Backend} {id : TaskId} {outcome : Outcome}
    (h : b.slots.find? id = some (.done outcome)) : (b.forget id).slots.find? id = none := by
  simp [forget, h]

theorem forget_of_none {b : Backend} {id : TaskId} (h : b.slots.find? id = none) :
    (b.forget id).slots.find? id = some .abandoned := by
  simp [forget, h]

end Backend

end JobNode
