import JobNode.Json.Decode
import JobNode.Queue.Error

/-!
# Settings of the task queue
-/

namespace JobNode

/-- How the queue and its workers run. -/
structure QueueSettings where
  /-- Number of workers. -/
  workers : Nat := 4
  /-- Milliseconds that an idle worker waits before it looks for a submission unasked. -/
  idleWaitMillis : Nat := 100
  /-- How long a submission stays valid. -/
  taskValidity : Duration := .ofSecs 3600
  deriving DecidableEq

namespace QueueSettings

instance : Inhabited QueueSettings := ⟨{}⟩

/-- How long an idle worker waits before it looks for a submission unasked. -/
def idleWait (s : QueueSettings) : Duration := .ofMillis s.idleWaitMillis

/-- Refuse settings that no pool of workers can run with. -/
def check (s : QueueSettings) : Except QueueError Unit :=
  if s.workers = 0 then .error (.validation "num_workers must be greater than zero")
  else if s.taskValidity.isZero then
    .error (.validation "task_valid_duration must be greater than zero")
  else .ok ()

open Json

/-- The settings as an object. -/
def toJson (s : QueueSettings) : Json :=
  .ofFields
    [("num_workers", .nat s.workers), ("worker_wait_time_ms", .nat s.idleWaitMillis),
      ("task_valid_duration", .ofDuration s.taskValidity)]

/-- The settings of a queue. -/
def decode : Decoder QueueSettings :=
  Decode.record "QueueSettings" ["num_workers", "worker_wait_time_ms", "task_valid_duration"]
    (fun fields => do
      let workers ← Decode.field? fields "num_workers" Decode.count
      let taskValidity ← Decode.field? fields "task_valid_duration" Decode.duration
      let idleWaitMillis ← Decode.field? fields "worker_wait_time_ms" Decode.word64
      let workers ← Decode.require "num_workers" workers
      let idleWaitMillis ← Decode.require "worker_wait_time_ms" idleWaitMillis
      let taskValidity ← Decode.require "task_valid_duration" taskValidity
      .ok { workers, idleWaitMillis, taskValidity })
    (fun ts => do
      let workers ← Decode.item "QueueSettings" 3 ts 0 Decode.count
      let idleWaitMillis ← Decode.item "QueueSettings" 3 ts 1 Decode.word64
      let taskValidity ← Decode.item "QueueSettings" 3 ts 2 Decode.duration
      .ok { workers, idleWaitMillis, taskValidity })

end QueueSettings

end JobNode
