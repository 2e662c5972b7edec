import JobNode.Job.Record

/-!
# Completion messages

When a job that was created by a call is finalized, a message about it goes out.  The message names
the account and the job and repeats the status and the last log message of the finalized job.
-/

namespace JobNode

/-- What a message reports. -/
inductive EventType where
  | jobCompleted
  deriving DecidableEq, Repr

namespace EventType

/-- All of them. -/
def all : List EventType := [jobCompleted]

/-- The name of an event. -/
def toText : EventType → String
  | jobCompleted => "job_completed"

/-- The event with a given name. -/
def ofText? (s : String) : Option EventType :=
  all.find? fun e => e.toText == s

/-- The refusal of a text that is no name of an event. -/
def unknownNameMessage : String := "Matching variant not found"

end EventType

/-- A message about an event. -/
structure Notification where
  eventType : EventType
  accountId : String
  recorded : Instant
  documentType : String
  documentId : String
  status : String
  message : String
  deriving DecidableEq

namespace Notification

/-- The kind of document that a message about a job refers to. -/
def jobDocument : String := "job"

/-- The message about a finalized job. -/
def jobCompleted (account : AccountId) (job : Job) (now : Instant) : Notification where
  eventType := .jobCompleted
  accountId := account.toText
  recorded := now
  documentType := jobDocument
  documentId := job.id.toText
  status := job.status.toText
  message := job.lastMessage

open Json

/-- A message as an object. -/
def toJson (n : Notification) : Json :=
  .ofFields
    [("event_type", .string n.eventType.toText), ("account_id", .string n.accountId),
      ("recorded", .ofInstant n.recorded), ("document_type", .string n.documentType),
      ("document_id", .string n.documentId), ("status", .string n.status),
      ("message", .string n.message)]

/-- The names of the fields, in order of declaration. -/
def fieldNames : List String :=
  ["event_type", "account_id", "recorded", "document_type", "document_id", "status", "message"]

/-- The kind of event. -/
def decodeEvent : Decoder EventType :=
  Decode.variant (EventType.all.map EventType.toText) EventType.ofText?

/-- A message from the fields of an object. -/
def ofFields (fields : Decode.Fields) : Except DecodeError Notification := do
  let accountId ← Decode.field? fields "account_id" Decode.string
  let documentId ← Decode.field? fields "document_id" Decode.string
  let documentType ← Decode.field? fields "document_type" Decode.string
  let eventType ← Decode.field? fields "event_type" decodeEvent
  let message ← Decode.field? fields "message" Decode.string
  let recorded ← Decode.field? fields "recorded" Decode.instant
  let status ← Decode.field? fields "status" Decode.string
  let eventType ← Decode.require "event_type" eventType
  let accountId ← Decode.require "account_id" accountId
  let recorded ← Decode.require "recorded" recorded
  let documentType ← Decode.require "document_type" documentType
  let documentId ← Decode.require "document_id" documentId
  let status ← Decode.require "status" status
  .ok ⟨eventType, accountId, recorded, documentType, documentId, status, message.getD ""⟩

/-- A message from the items of an array. -/
def ofItems (ts : List Tree) : Except DecodeError Notification := do
  let item {α : Type} (i : Nat) (decode : Decoder α) : Except DecodeError α :=
    Decode.item "NotificationMessage" 7 ts i decode
  let eventType ← item 0 decodeEvent
  let accountId ← item 1 Decode.string
  let recorded ← item 2 Decode.instant
  let documentType ← item 3 Decode.string
  let documentId ← item 4 Decode.string
  let status ← item 5 Decode.string
  let message ← Decode.itemOr "" ts 6 Decode.string
  .ok ⟨eventType, accountId, recorded, documentType, documentId, status, message⟩

/-- A message. -/
def decode : Decoder Notification :=
  Decode.record "NotificationMessage" fieldNames ofFields ofItems

end Notification

end JobNode
