import JobNode.Manager.StatusTask
import JobNode.Schedule.Script

/-!
# Sample tasks

Tasks that show what a queue does with its submissions: they answer, fail, panic, sleep, wait at a
gate, write to the log of their scene and count their calls.
-/

namespace JobNode.Schedule.SampleTask

/-- A body that ends with a value. -/
def returning (v : Json) : Script := .finish (.returned v)

/-- A body that reads a parameter first, and fails with the text of the error if it cannot. -/
def reading {α : Type} (answer : Except QueueError α) (next : α → Script) : Script :=
  match answer with
  | .ok a => next a
  | .error e => .finish (.failed e.message)

/-- The signed 64-bit word with the same low bits. -/
def wrap64 (n : Int) : Int := n.bmod 18446744073709551616

/-- One more than the parameter `n`. -/
def ping : Task := fun p =>
  reading (p.get "n" Json.Decode.signed64) fun n =>
    returning (.ofFields [("pong", .int (wrap64 (n + 1)))])

/-- The parameter `msg`, or null. -/
def echo : Task := fun p => returning ((p.value? "msg").getD .null)

/-- The names of the parameters. -/
def keys : Task := fun p => returning (.array (p.names.map .string))

/-- The sum of the list `items`. -/
def sum : Task := fun p =>
  reading (p.get "items" (Json.Decode.list Json.Decode.signed64)) fun ns =>
    returning (.int (wrap64 (ns.foldl (fun sum n => sum + n) 0)))

/-- The texts `a` and `b` with a dash between them. -/
def join : Task := fun p =>
  reading (p.text "a") fun a =>
    reading (p.text "b") fun b => returning (.string (a ++ "-" ++ b))

/-- Sleep as long as `wait` says. -/
def sleepy : Task := fun p =>
  reading (p.duration "wait") fun d => .sleep d (returning (.string "slept"))

/-- The timeout in nanoseconds, or null. -/
def timeout : Task := fun p =>
  reading p.timeout fun d? =>
    returning (Json.ofOption (fun d => .string (Decimal.ofNat d.nanos)) d?)

/-- The text that is failed with when the parameters have none. -/
def defaultFailure : String := "rpc timeout"

/-- Fail with the text `message`. -/
def fail : Task := fun p =>
  match p.text "message" with
  | .ok message => .finish (.failed message)
  | .error _ => .finish (.failed defaultFailure)

/-- Panic. -/
def panic : Task := fun _ => .finish .panicked

/-- Wait at the gate `name`, and log the arrival and the departure. -/
def gate : Task := fun p =>
  reading (p.text "name") fun name =>
    .log ("enter " ++ name)
      (.gate name (.log ("leave " ++ name) (returning (.string "passed"))))

/-- Write the text `tag` to the log. -/
def log : Task := fun p => reading (p.text "tag") fun tag => .log tag (returning .null)

/-- The number of calls so far. -/
def count : Task := fun _ => .count fun n => returning (.nat n)

/-- The status of a job of the scene. -/
def jobStatus : Task := fun p => .jobs (Manager.StatusTask.run p)

/-- All of them, by name. -/
def all : List (String × Task) :=
  [("ping", ping), ("echo", echo), ("keys", keys), ("sum", sum), ("join", join),
    ("sleepy", sleepy), ("timeout", timeout), ("fail", fail), ("panic", panic), ("gate", gate),
    ("log", log), ("count", count), (Manager.StatusTask.name, jobStatus)]

/-- The task of a name; a name that is none of theirs echoes. -/
def named (name : String) : Task := (all.lookup name).getD echo

/-- The name that a task calls itself by, when it is asked to go by another one: only the task on the
status of jobs has a name of its own. -/
def ownName (name asked : String) : String :=
  if name = Manager.StatusTask.name then name else asked

end JobNode.Schedule.SampleTask
