import JobNode.Error
import JobNode.Text.Basic

/-!
# Repeating writes that meet a lock

A write that the database refuses because another one holds the lock is tried again a few times.
The delays double from a base up to a limit, with up to a quarter of random jitter on top.

* `Backoff.delay?_le_limit`: no delay is above the limit.
-/

namespace JobNode

/-- When and how often to repeat a write. -/
structure Backoff where
  /-- Attempts after the first one. -/
  retries : Nat
  base : Duration
  limit : Duration
  deriving DecidableEq

/-! ## Contention -/

/-- The text of a database error speaks of a lock. -/
def mentionsLock (text : String) : Bool :=
  let text := Text.lowerAscii text
  Text.contains text "database is locked" || Text.contains text "database is busy"

/-- The database refused the operation because of a lock: by the result codes 5 and 6, or by the
text of the error. -/
def StorageError.isContention : StorageError → Bool
  | .engine code? text => code? == some "5" || code? == some "6" || mentionsLock text
  | e => mentionsLock e.message

/-- The operation met a lock of the database. -/
def Error.isContention : Error → Bool
  | .storage cause => cause.isContention
  | _ => false

namespace Backoff

/-- The schedule for saving a job. -/
def jobSave : Backoff where
  retries := 5
  base := .ofMillis 5
  limit := .ofMillis 250

/-- The delay after the failed attempt number `attempt`, before jitter. -/
def capped (b : Backoff) (attempt : Nat) : Duration :=
  (b.base.mul (1 <<< Nat.min attempt 16)).min b.limit

/-- The jitter is below this many microseconds. -/
def jitterRange (b : Backoff) (attempt : Nat) : Nat :=
  (b.capped attempt).micros % 18446744073709551616 / 4 + 1

/-- The delay after the failed attempt number `attempt`, for a random number `draw`; none if the
sum with the jitter is more than a duration holds. -/
def delay? (b : Backoff) (attempt draw : Nat) : Option Duration :=
  (Duration.ofNanos? ((b.capped attempt).nanos + draw % b.jitterRange attempt * 1000)).map
    fun d => d.min b.limit

/-- What happens in a run of attempts. -/
inductive Moment where
  | attempt
  /-- A delay before the next attempt. -/
  | pause (d : Duration)
  deriving DecidableEq

namespace Moment

/-- The moment is an attempt. -/
def isAttempt : Moment → Bool
  | attempt => true
  | pause _ => false

/-- The delay, if the moment is one. -/
def pause? : Moment → Option Duration
  | attempt => none
  | pause d => some d

end Moment

/-- What a run of attempts came to. -/
structure Run (α : Type) where
  /-- The attempts and the delays, in order. -/
  moments : List Moment
  result : Except Error α

namespace Run

variable {α : Type}

/-- Number of attempts. -/
def attempts (r : Run α) : Nat := r.moments.countP Moment.isAttempt

/-- The delays between the attempts, in order. -/
def delays (r : Run α) : List Duration := r.moments.filterMap Moment.pause?

end Run

/-- Attempt number `attempt` and, with `left` retries left, those that follow. -/
def runFrom {α : Type} (b : Backoff) (draw : Nat → Nat) (op : Nat → Except Error α) :
    (left attempt : Nat) → Option (Run α)
  | left, attempt =>
    match op attempt with
    | .ok a => some ⟨[.attempt], .ok a⟩
    | .error e =>
      match left with
      | 0 => some ⟨[.attempt], .error e⟩
      | left + 1 =>
        if e.isContention then
          match b.delay? attempt (draw attempt) with
          | none => none
          | some d =>
            (runFrom b draw op left (attempt + 1)).map fun r =>
              ⟨.attempt :: .pause d :: r.moments, r.result⟩
        else some ⟨[.attempt], .error e⟩

/-- Repeat an operation while it meets a lock and retries are left; none if a delay cannot be
computed.  `op i` is the outcome of attempt `i` and `draw i` the random number after it. -/
def run {α : Type} (b : Backoff) (draw : Nat → Nat) (op : Nat → Except Error α) :
    Option (Run α) :=
  b.runFrom draw op b.retries 0

theorem delay?_le_limit {b : Backoff} {attempt draw : Nat} {d : Duration}
    (h : b.delay? attempt draw = some d) : d ≤ b.limit := by
  obtain ⟨sum, -, rfl⟩ := Option.map_eq_some_iff.1 h
  rw [Duration.le_def, Duration.nanos_min]
  exact Nat.min_le_right _ _

end Backoff

end JobNode
