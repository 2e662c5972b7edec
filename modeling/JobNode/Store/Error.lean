/-!
# Errors of the job table
-/

namespace JobNode

/-- What the database can report. -/
inductive StorageError where
  /-- The data exchanged with the database makes no sense. -/
  | protocol (message : String)
  | rowNotFound
  /-- The database refused an operation; it may have given a result code. -/
  | engine (code? : Option String) (message : String)
  | configuration (message : String)
  /-- The database cannot be talked to. -/
  | communication (message : String)
  /-- The connections were closed. -/
  | closed
  deriving DecidableEq

namespace StorageError

/-- The message of the error. -/
def message : StorageError → String
  | protocol message => "encountered unexpected or invalid data: " ++ message
  | rowNotFound => "no rows returned by a query that expected to return at least one row"
  | engine _ message => "error returned from database: " ++ message
  | configuration message => "error with configuration: " ++ message
  | communication message => "error communicating with database: " ++ message
  | closed => "attempted to acquire a connection on a closed pool"

end StorageError

end JobNode
