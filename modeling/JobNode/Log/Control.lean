import JobNode.Environment.File
import JobNode.Error
import JobNode.Log.Filter

/-!
# Changing the log filter of a running node

The filter is replaced by an explicit call, or when a hangup signal arrives.  A hangup takes the
directive from the environment file, else from the environment, and the default where the one it
found is blank or there is none.  A directive that cannot be read leaves the filter as it is.
-/

namespace JobNode.Log

/-- The filter that applies when nobody asks for another. -/
def defaultDirective : String := "anchord=info,task_queue=info,sqlx=warn"

/-- The variable that asks for a filter. -/
def variableName : String := "RUST_LOG"

/-- The error for a directive that cannot be read. -/
def FilterError.toError (e : FilterError) : Error :=
  .configuration ("Invalid filter directive: " ++ e.message)

/-- The directive that a hangup applies, from the environment file and the environment. -/
def configuredDirective (fromFile fromEnvironment : Option String) : String :=
  match fromFile.or fromEnvironment with
  | some directive => if Text.isAllBlank directive then defaultDirective else directive
  | none => defaultDirective

/-- The directive that an environment file asks for, if there is a file; faulty lines are passed
over. -/
def fileDirective? (file : Option (List Environment.Entry)) : Option String :=
  file.bind (Environment.first? variableName)

/-- The log of a running node. -/
structure Control where
  filter : Filter
  /-- Hangups are no longer watched. -/
  released : Bool := false
  deriving DecidableEq

namespace Control

/-- Replace the filter. -/
def set (c : Control) (directive : String) : Except Error Control :=
  match Filter.parse directive with
  | .ok filter => .ok { c with filter }
  | .error e => .error e.toError

/-- Take the filter from the environment file and the environment. -/
def hangup (c : Control) (fromFile fromEnvironment : Option String) : Control :=
  if c.released then c
  else
    match c.set (configuredDirective fromFile fromEnvironment) with
    | .ok next => next
    | .error _ => c

/-- Stop watching for hangups. -/
def release (c : Control) : Control := { c with released := true }

/-- What happens to the log of a running node. -/
inductive Event where
  /-- Somebody asks for a filter. -/
  | set (directive : String)
  /-- A hangup arrives.  The lines of the environment file say so much, if there is a file, and the
  environment asks for so much. -/
  | hangup (file : Option (List Environment.Entry)) (fromEnvironment : Option String)
  /-- Hangups are no longer watched. -/
  | release

/-- The log after something has happened.  A refused filter changes nothing. -/
def apply (c : Control) : Event → Control
  | .set directive =>
    match c.set directive with
    | .ok next => next
    | .error _ => c
  | .hangup file fromEnvironment => c.hangup (fileDirective? file) fromEnvironment
  | .release => c.release

end Control

end JobNode.Log
