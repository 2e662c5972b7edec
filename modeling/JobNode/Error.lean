import JobNode.Json.Decode
import JobNode.Queue.Error
import JobNode.Store.Error

/-!
# Errors

Everything that can go wrong in the node, with the text shown for it.  Errors that happen together
are combined into one by `append`, which keeps the members in order and never nests them.
-/

namespace JobNode

/-- An error of the node. -/
inductive Error where
  | storage (cause : StorageError)
  | migration (message : String)
  | serialization (cause : Json.DecodeError)
  | invalidTransition (source target : String)
  | notFound (entity id : String)
  | validation (message : String)
  | configuration (message : String)
  /-- The work of a job reported an error. -/
  | workFailure (action message : String)
  /-- A job that was waited for has failed. -/
  | jobFailed (jobId message : String)
  | notification (message : String)
  | queue (cause : QueueError)
  | io (message : String)
  /-- Several errors, in the order they happened. -/
  | multiple (members : List Error)
  | other (message : String)

namespace Error

instance : Inhabited Error := ⟨other ""⟩

mutual

/-- The message of an error. -/
def message : Error → String
  | storage cause => "Database error: " ++ cause.message
  | migration text => "Migration error: " ++ text
  | serialization cause => "Serialization error: " ++ cause.message
  | invalidTransition source target =>
    "Invalid state transition: cannot transition from " ++ source ++ " to " ++ target
  | notFound entity id => "Entity not found: " ++ entity ++ " with id " ++ id
  | validation text => "Validation error: " ++ text
  | configuration text => "Configuration error: " ++ text
  | workFailure action text => action ++ " " ++ text
  | jobFailed jobId text => "job " ++ jobId ++ " failed: " ++ text
  | notification text => "Notification error: " ++ text
  | queue cause => "Queue error: " ++ cause.message
  | io text => "IO error: " ++ text
  | multiple members => String.intercalate "; " (messages members)
  | other text => text

/-- The messages of errors, in order. -/
def messages : List Error → List String
  | [] => []
  | e :: rest => message e :: messages rest

end

/-- Something that was asked for does not exist. -/
def isNotFound : Error → Bool
  | notFound _ _ => true
  | _ => false

/-- The errors that an error stands for. -/
def members : Error → List Error
  | multiple es => es
  | e => [e]

/-- Two errors that happened one after the other. -/
def append (a b : Error) : Error :=
  multiple (a.members ++ b.members)

theorem messages_eq_map (es : List Error) : messages es = es.map message := by
  induction es with
  | nil => rfl
  | cons e rest ih => simp [messages, ih]

@[simp]
theorem members_append (a b : Error) : (a.append b).members = a.members ++ b.members := rfl

end Error

end JobNode
