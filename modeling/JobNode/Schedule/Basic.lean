import JobNode.Instant.Basic
import JobNode.Uuid

/-!
# Threads on a clock

Threads share a state and a clock.  A thread runs until it waits or ends; while it waits, the state
or the clock may make it ready again.  Ready threads take turns in the order in which they became
ready, and the clock moves only when none is ready, to the next time that one of them waits for.

A schedule like this is one of many: it settles which of the possible steps comes next, and the
steps themselves are those of the machines it runs.
-/

namespace JobNode.Schedule

/-- What a thread leaves at the end of its turn. -/
structure Turn (σ κ : Type) where
  state : σ
  /-- Where the thread goes on; none once it has ended. -/
  next : Option κ
  /-- The threads it has started. -/
  started : List κ := []

/-- How threads of one kind run. -/
structure Rules (σ κ : Type) where
  /-- The thread can go on. -/
  isReady : Nat → σ → κ → Bool
  /-- The time at which the thread goes on whatever happens. -/
  alarm? : κ → Option Nat
  /-- A turn of the thread at some time. -/
  turn : Nat → σ → κ → Turn σ κ

/-- Threads at some time; times are in nanoseconds from the start. -/
structure Threads (σ κ : Type) where
  now : Nat := 0
  state : σ
  /-- The threads whose turn it is, the next one first. -/
  queue : List κ := []
  /-- The threads that wait, in the order of their last turns. -/
  waiting : List κ := []

namespace Threads

variable {σ κ : Type}

/-- Start threads. -/
def start (t : Threads σ κ) (threads : List κ) : Threads σ κ :=
  { t with queue := t.queue ++ threads }

/-- Move the threads that have become ready to the end of the queue. -/
def collect (rules : Rules σ κ) (t : Threads σ κ) : Threads σ κ :=
  let (ready, waiting) := t.waiting.partition (rules.isReady t.now t.state)
  if ready.isEmpty then t else { t with queue := t.queue ++ ready, waiting }

/-- The next turn; none if no thread is ready. -/
def step? (rules : Rules σ κ) (t : Threads σ κ) : Option (Threads σ κ) :=
  match t.queue with
  | [] => none
  | thread :: queue =>
    let turn := rules.turn t.now t.state thread
    let t :=
      { t with
        state := turn.state
        queue := queue ++ turn.started
        waiting := t.waiting ++ turn.next.toList }
    some (t.collect rules)

/-- Up to `fuel` turns, as long as a thread is ready. -/
def turns (rules : Rules σ κ) : Nat → Threads σ κ → Threads σ κ
  | 0, t => t
  | fuel + 1, t =>
    match t.step? rules with
    | some t => turns rules fuel t
    | none => t

/-- The most turns that are taken at one time. -/
def maxTurns : Nat := 1000000

/-- Take turns until no thread is ready. -/
def settle (rules : Rules σ κ) (t : Threads σ κ) : Threads σ κ :=
  (t.collect rules).turns rules maxTurns

/-- The first time that a thread waits for. -/
def nextAlarm? (rules : Rules σ κ) (t : Threads σ κ) : Option Nat :=
  (t.waiting.filterMap rules.alarm?).min?

/-- Run until the state is as wanted or the time has come, whichever is first; none if neither will
happen, or not within `fuel` moves of the clock.  The answer says whether the state is as
wanted. -/
def runUntil (rules : Rules σ κ) (wanted : σ → Bool) (deadline : Option Nat) :
    Nat → Threads σ κ → Option (Bool × Threads σ κ)
  | 0, _ => none
  | fuel + 1, t =>
    if wanted t.state then some (true, t)
    else if deadline.any (· ≤ t.now) then some (false, t)
    else
      let t := t.settle rules
      if wanted t.state then some (true, t)
      else
        match deadline, t.nextAlarm? rules with
        | none, none => none
        | none, some alarm =>
          runUntil rules wanted deadline fuel { t with now := max t.now alarm }
        | some time, none => some (false, { t with now := max t.now time })
        | some time, some alarm =>
          if time ≤ alarm then some (false, { t with now := max t.now time })
          else runUntil rules wanted deadline fuel { t with now := max t.now alarm }

/-- The most times that the clock moves while something is waited for. -/
def maxMoves : Nat := 10000000

/-- Run for some time, and take the turns that are due at its end. -/
def advance (rules : Rules σ κ) (span : Nat) (t : Threads σ κ) : Threads σ κ :=
  match (t.settle rules).runUntil rules (fun _ => false) (some (t.now + span)) maxMoves with
  | some (_, t) => t.settle rules
  | none => t

end Threads

/-- The time a timer that is set at some time goes off: timers count in whole milliseconds. -/
def timerAt (now : Nat) (d : Duration) : Nat :=
  (now + d.nanos + 999999) / 1000000 * 1000000

/-- Let some time pass.  A timer that is over when it is set lets no thread run. -/
def Threads.pass {σ κ : Type} (rules : Rules σ κ) (d : Duration) (t : Threads σ κ) :
    Threads σ κ :=
  let time := timerAt t.now d
  if time ≤ t.now then t else t.advance rules (time - t.now)

/-- The date of the start. -/
def startDate : Instant := (Instant.ofParts? 1767225600 0).getD .epoch

/-- What the calendar shows at some time.  Two looks at it never show the same. -/
def dateAt (now looks : Nat) : Instant :=
  startDate.addSaturating (.saturating (now + looks * 1000))

/-- A new identifier; those of different numbers below 2³² differ. -/
def freshUuid (n : Nat) : Uuid := .ofNat (0xffffffffffff4fffbfffffff00000000 + n)

end JobNode.Schedule
