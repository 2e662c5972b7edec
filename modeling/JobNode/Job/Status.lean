/-!
# Job status

A job is pending until it succeeds or fails, and then stays as it is.  The tasks of a job have a
status of the same kind.
-/

namespace JobNode

/-- How far a job, or one of its tasks, has come. -/
inductive Status where
  | pending
  | success
  | failed
  deriving DecidableEq, Repr, Inhabited

namespace Status

/-- All of them. -/
def all : List Status := [pending, success, failed]

/-- The name of a status. -/
def toText : Status → String
  | pending => "pending"
  | success => "success"
  | failed => "failed"

/-- The status with a given name. -/
def ofText? (s : String) : Option Status :=
  all.find? fun st => st.toText == s

/-- The refusal of a text that is no name of a status. -/
def unknownNameMessage : String := "Matching variant not found"

/-- The job is done. -/
def isTerminal : Status → Bool
  | pending => false
  | success | failed => true

theorem ofText?_toText (st : Status) : ofText? st.toText = some st := by
  cases st <;> decide

end Status

end JobNode
