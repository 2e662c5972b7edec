import JobNode.Duration.Text

/-!
# Errors of the task queue
-/

namespace JobNode

/-- What the queue, its workers and its result handles can report. -/
inductive QueueError where
  | notInitialised
  | alreadyStarted
  | unknownTask (name : String)
  | expired (taskId : String)
  | timeout (taskId : String) (limit : Duration)
  | taskFailed (task message : String)
  | validation (message : String)
  | closed
  deriving DecidableEq

namespace QueueError

/-- The message of the error. -/
def message : QueueError → String
  | notInitialised => "queue hasn't been initialised"
  | alreadyStarted => "queue server already started"
  | unknownTask name => "no task type registered under '" ++ name ++ "'"
  | expired taskId => "task " ++ taskId ++ " expired before it completed"
  | timeout taskId limit =>
    "timed out after " ++ limit.toText ++ " waiting for task " ++ taskId
  | taskFailed task message => "task " ++ task ++ " failed: " ++ message
  | validation message => "Validation error: " ++ message
  | closed => "queue closed"

end QueueError

end JobNode
