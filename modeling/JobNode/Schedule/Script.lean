import JobNode.Manager.Procedure
import JobNode.Queue.Execution
import JobNode.Schedule.Basic

/-!
# What a body does over time

The body of a task as a script: it sleeps, waits at a gate, writes to a log, counts its calls or
looks at jobs, and ends.
-/

namespace JobNode.Schedule

/-- The body of a task. -/
inductive Script where
  | finish (last : BodyEnd)
  | sleep (d : Duration) (next : Script)
  /-- Wait until the gate is open. -/
  | gate (name : String) (next : Script)
  | log (line : String) (next : Script)
  /-- Count the call; the script goes on with the number of calls so far. -/
  | count (next : Nat → Script)
  /-- Carry out a procedure on jobs, and end as it says. -/
  | jobs (p : Procedure BodyEnd)

/-- A task: what its body does with the parameters. -/
abbrev Task := Params → Script

/-- What scripts share. -/
structure Scene where
  /-- The gates that are open. -/
  openGates : List String := []
  log : List String := []
  calls : Nat := 0
  jobs : Memory := .empty
  /-- Number of looks at the calendar. -/
  looks : Nat := 0
  /-- Number of identifiers given out. -/
  identifiers : Nat := 0

namespace Scene

/-- Look at the calendar. -/
def look (s : Scene) (now : Nat) : Instant × Scene :=
  (dateAt now s.looks, { s with looks := s.looks + 1 })

/-- Take a new identifier. -/
def newUuid (s : Scene) : Uuid × Scene :=
  (freshUuid s.identifiers, { s with identifiers := s.identifiers + 1 })

/-- Open a gate. -/
def openGate (s : Scene) (name : String) : Scene := { s with openGates := name :: s.openGates }

/-- The gate is open. -/
def isOpen (s : Scene) (name : String) : Bool := s.openGates.contains name

/-- The surroundings of procedures on the jobs of a scene. -/
def surroundings (now : Nat) : Procedure.Surroundings Scene where
  get s key := ((Store.memory s.jobs).get key, s)
  save s job := (.ok (), { s with jobs := s.jobs.save job })
  now s := s.look now
  newId s :=
    let (uuid, s) := s.newUuid
    (⟨uuid⟩, s)

end Scene

/-- Why a script does not go on. -/
inductive Pause where
  | until (time : Nat)
  | gate (name : String)
  deriving DecidableEq

/-- The script can go on. -/
def Pause.isOver (now : Nat) (s : Scene) : Pause → Bool
  | .until time => time ≤ now
  | .gate name => s.isOpen name

/-- The time at which the script goes on. -/
def Pause.alarm? : Pause → Option Nat
  | .until time => some time
  | .gate _ => none

namespace Script

/-- Go on until the script pauses or ends. -/
def advance (now : Nat) : Script → Scene → Scene × (Pause × Script ⊕ BodyEnd)
  | finish last, s => (s, .inr last)
  | sleep d next, s =>
    if timerAt now d ≤ now then next.advance now s
    else (s, .inl (.until (timerAt now d), next))
  | gate name next, s =>
    if s.isOpen name then next.advance now s else (s, .inl (.gate name, next))
  | log line next, s => next.advance now { s with log := s.log ++ [line] }
  | count next, s => (next (s.calls + 1)).advance now { s with calls := s.calls + 1 }
  | jobs p, s =>
    let (last, s) := p.run (Scene.surroundings now) s
    (s, .inr last)

end Script

end JobNode.Schedule
