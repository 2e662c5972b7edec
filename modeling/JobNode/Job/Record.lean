import JobNode.Instant.Text
import JobNode.Job.Basic
import JobNode.Json.Decode
import JobNode.Json.Printer

/-!
# Jobs as JSON records

The written form of a job and of the parts it is made of.  Bytes are hexadecimal text, times are
RFC 3339 text, and a job read without task status, values or log has none of them.
-/

namespace JobNode

/-! ## Parts -/

namespace Json

/-- An identifier as a string. -/
def ofUuid (u : Uuid) : Json := .string u.toText

/-- An instant as a string. -/
def ofInstant (t : Instant) : Json := .string t.toText

/-- Bytes as a string. -/
def ofBytes (bytes : List UInt8) : Json := .string (Hex.encode bytes)

namespace Decode

/-- An identifier in one of its accepted forms. -/
def uuid : Decoder Uuid
  | .string (some s) =>
    match Uuid.parse s with
    | .ok u => .ok u
    | .error e => .error (.refused ("UUID parsing failed: " ++ e.message))
  | t => t.mismatch "a formatted UUID string"

/-- An instant. -/
def instant : Decoder Instant
  | .string (some s) =>
    match Instant.parse s with
    | .ok t => .ok t
    | .error e => .error (.refused e.message)
  | t => t.mismatch "an RFC 3339 formatted date and time string"

/-- Bytes. -/
def bytes : Decoder (List UInt8) :=
  parsed fun s => (Hex.decode s).mapError Hex.DecodeError.message

/-- An account identifier. -/
def account : Decoder AccountId :=
  parsed fun s =>
    (AccountId.parse s).mapError fun e => "Validation error: " ++ e.message

/-- A status. -/
def status : Decoder Status :=
  variant (Status.all.map Status.toText) Status.ofText?

end Decode

end Json

open Json

/-- A job identifier as a string. -/
def JobId.toJson (id : JobId) : Json := .ofUuid id.uuid

/-- A job identifier. -/
def JobId.decode : Decoder JobId := fun t => (Decode.uuid t).map JobId.mk

/-- A status as a string. -/
def Status.toJson (st : Status) : Json := .string st.toText

/-- An account identifier as a string. -/
def AccountId.toJson (a : AccountId) : Json := .string a.toText

/-! ## Log entries and values -/

/-- A log entry as an object. -/
def LogEntry.toJson (e : LogEntry) : Json :=
  .ofFields
    [("task_name", .string e.taskName), ("message", .string e.message),
      ("created_at", .ofInstant e.createdAt)]

/-- A log entry. -/
def LogEntry.decode : Decoder LogEntry :=
  Decode.record "JobLog" ["task_name", "message", "created_at"]
    (fun fields => do
      let createdAt ← Decode.field? fields "created_at" Decode.instant
      let message ← Decode.field? fields "message" Decode.string
      let taskName ← Decode.field? fields "task_name" Decode.string
      let taskName ← Decode.require "task_name" taskName
      let message ← Decode.require "message" message
      let createdAt ← Decode.require "created_at" createdAt
      .ok ⟨taskName, message, createdAt⟩)
    (fun ts => do
      let taskName ← Decode.item "JobLog" 3 ts 0 Decode.string
      let message ← Decode.item "JobLog" 3 ts 1 Decode.string
      let createdAt ← Decode.item "JobLog" 3 ts 2 Decode.instant
      .ok ⟨taskName, message, createdAt⟩)

/-- A stored value as an object. -/
def StoredValue.toJson (v : StoredValue) : Json :=
  .ofFields [("key", .string v.key), ("value", .ofBytes v.bytes)]

/-- A stored value. -/
def StoredValue.decode : Decoder StoredValue :=
  Decode.record "JobValue" ["key", "value"]
    (fun fields => do
      let key ← Decode.field? fields "key" Decode.string
      let bytes ← Decode.field? fields "value" Decode.bytes
      let key ← Decode.require "key" key
      let bytes ← Decode.require "value" bytes
      .ok ⟨key, bytes⟩)
    (fun ts => do
      let key ← Decode.item "JobValue" 2 ts 0 Decode.string
      let bytes ← Decode.item "JobValue" 2 ts 1 Decode.bytes
      .ok ⟨key, bytes⟩)

/-! ## Jobs -/

namespace Job

/-- A job as an object. -/
def toJson (job : Job) : Json :=
  .ofFields
    [("id", job.id.toJson), ("did", job.account.toJson),
      ("description", .string job.description), ("status", job.status.toJson),
      ("task_status", .ofDict Status.toJson job.taskStatus),
      ("values", .ofDict StoredValue.toJson job.values),
      ("logs", .array (job.logs.map LogEntry.toJson)), ("created_at", .ofInstant job.createdAt)]

/-- The names of the fields of a job, in order of declaration. -/
def fieldNames : List String :=
  ["id", "did", "description", "status", "task_status", "values", "logs", "created_at"]

/-- A job from the fields of an object. -/
def ofFields (fields : Decode.Fields) : Except DecodeError Job := do
  let createdAt ← Decode.field? fields "created_at" Decode.instant
  let description ← Decode.field? fields "description" Decode.string
  let account ← Decode.field? fields "did" Decode.account
  let id ← Decode.field? fields "id" JobId.decode
  let logs ← Decode.field? fields "logs" (Decode.list LogEntry.decode)
  let status ← Decode.field? fields "status" Decode.status
  let taskStatus ← Decode.field? fields "task_status" (Decode.dict Decode.status)
  let values ← Decode.field? fields "values" (Decode.dict StoredValue.decode)
  let id ← Decode.require "id" id
  let account ← Decode.require "did" account
  let description ← Decode.require "description" description
  let status ← Decode.require "status" status
  let createdAt ← Decode.require "created_at" createdAt
  .ok ⟨id, account, description, status, taskStatus.getD .empty, values.getD .empty,
    logs.getD [], createdAt⟩

/-- A job from the items of an array. -/
def ofItems (ts : List Tree) : Except DecodeError Job := do
  let id ← Decode.item "Job" 8 ts 0 JobId.decode
  let account ← Decode.item "Job" 8 ts 1 Decode.account
  let description ← Decode.item "Job" 8 ts 2 Decode.string
  let status ← Decode.item "Job" 8 ts 3 Decode.status
  let taskStatus ← Decode.itemOr .empty ts 4 (Decode.dict Decode.status)
  let values ← Decode.itemOr .empty ts 5 (Decode.dict StoredValue.decode)
  let logs ← Decode.itemOr [] ts 6 (Decode.list LogEntry.decode)
  let createdAt ← Decode.item "Job" 8 ts 7 Decode.instant
  .ok ⟨id, account, description, status, taskStatus, values, logs, createdAt⟩

/-- A job. -/
def decode : Decoder Job :=
  Decode.record "Job" fieldNames ofFields ofItems

/-- The written form of a job. -/
def toText (job : Job) : String := job.toJson.render

/-- Read a job from its written form. -/
def parse (s : String) : Except DecodeError Job := decodeText decode s

end Job

/-! ## Status reports -/

namespace StatusReport

/-- A status report as an object. -/
def toJson (r : StatusReport) : Json :=
  .ofFields
    [("job_id", r.jobId.toJson), ("status", r.status.toJson), ("message", .string r.message),
      ("last_updated", .ofInstant r.lastUpdated)]

/-- A status report. -/
def decode : Decoder StatusReport :=
  Decode.record "StatusResponse" ["job_id", "status", "message", "last_updated"]
    (fun fields => do
      let jobId ← Decode.field? fields "job_id" JobId.decode
      let lastUpdated ← Decode.field? fields "last_updated" Decode.instant
      let message ← Decode.field? fields "message" Decode.string
      let status ← Decode.field? fields "status" Decode.status
      let jobId ← Decode.require "job_id" jobId
      let status ← Decode.require "status" status
      let message ← Decode.require "message" message
      let lastUpdated ← Decode.require "last_updated" lastUpdated
      .ok ⟨jobId, status, message, lastUpdated⟩)
    (fun ts => do
      let jobId ← Decode.item "StatusResponse" 4 ts 0 JobId.decode
      let status ← Decode.item "StatusResponse" 4 ts 1 Decode.status
      let message ← Decode.item "StatusResponse" 4 ts 2 Decode.string
      let lastUpdated ← Decode.item "StatusResponse" 4 ts 3 Decode.instant
      .ok ⟨jobId, status, message, lastUpdated⟩)

end StatusReport

end JobNode
