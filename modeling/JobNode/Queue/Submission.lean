import JobNode.Job.Record
import JobNode.Params

/-!
# Submissions

A submission asks for one run of a named task.  It is valid from its creation up to, but not
including, an instant after which no worker starts the task any more.
-/

namespace JobNode

/-- The name of a submission. -/
structure TaskId where
  uuid : Uuid
  deriving DecidableEq

namespace TaskId

instance : Inhabited TaskId := ⟨⟨default⟩⟩

/-- The written form. -/
def toText (id : TaskId) : String := id.uuid.toText

end TaskId

/-- A request to run a task. -/
structure Submission where
  id : TaskId
  /-- The name the task is registered under. -/
  task : String
  params : Params
  createdAt : Instant
  validUntil : Instant

namespace Submission

/-- A submission that is valid for the given time from now, at most to the last instant. -/
def create (id : TaskId) (task : String) (params : Params) (validity : Duration)
    (now : Instant) : Submission where
  id := id
  task := task
  params := params
  createdAt := now
  validUntil := now.addSaturating validity

/-- The submission is no longer valid. -/
def isExpired (s : Submission) (now : Instant) : Bool := s.validUntil ≤ now

/-- The time until the submission expires; none once it has. -/
def remaining? (s : Submission) (now : Instant) : Option Duration := s.validUntil.until? now

open Json

/-- A submission as an object. -/
def toJson (s : Submission) : Json :=
  .ofFields
    [("id", .ofUuid s.id.uuid), ("name", .string s.task), ("params", s.params.toJson),
      ("created_at", .ofInstant s.createdAt), ("valid_until", .ofInstant s.validUntil)]

/-- The names of the fields, in order of declaration. -/
def fieldNames : List String := ["id", "name", "params", "created_at", "valid_until"]

/-- The parameters of a submission, one level below it. -/
def decodeParams : Decoder Params := Params.decodeAt (maxDepth - 1)

/-- A submission. -/
def decode : Decoder Submission :=
  Decode.record "TaskSignature" fieldNames
    (fun fields => do
      let createdAt ← Decode.field? fields "created_at" Decode.instant
      let id ← Decode.field? fields "id" Decode.uuid
      let task ← Decode.field? fields "name" Decode.string
      let params ← Decode.field? fields "params" decodeParams
      let validUntil ← Decode.field? fields "valid_until" Decode.instant
      let id ← Decode.require "id" id
      let task ← Decode.require "name" task
      let params ← Decode.require "params" params
      let createdAt ← Decode.require "created_at" createdAt
      let validUntil ← Decode.require "valid_until" validUntil
      .ok ⟨⟨id⟩, task, params, createdAt, validUntil⟩)
    (fun ts => do
      let id ← Decode.item "TaskSignature" 5 ts 0 Decode.uuid
      let task ← Decode.item "TaskSignature" 5 ts 1 Decode.string
      let params ← Decode.item "TaskSignature" 5 ts 2 decodeParams
      let createdAt ← Decode.item "TaskSignature" 5 ts 3 Decode.instant
      let validUntil ← Decode.item "TaskSignature" 5 ts 4 Decode.instant
      .ok ⟨⟨id⟩, task, params, createdAt, validUntil⟩)

/-- The written form of a submission. -/
def toText (s : Submission) : String := s.toJson.render

/-- Read a submission from its written form. -/
def parse (s : String) : Except DecodeError Submission := decodeText decode s

end Submission

end JobNode
