import JobNode.Store.Table

/-!
# Job stores

A store keeps jobs in memory or in the table of a database, whose connections may have been closed.
Both answer `get` and `save` alike; a closed database answers nothing.
-/

namespace JobNode

/-- A place where jobs are kept. -/
inductive Store where
  | memory (jobs : Memory)
  | database (jobs : Table) (isOpen : Bool)

namespace Store

/-- The job with the identifier does not exist. -/
def missing (key : JobKey) : Error := .notFound "Job" key.id.toText

/-- The connections to the database were closed. -/
def unavailable : Error := .storage .closed

/-- The job under a key. -/
def get (s : Store) (key : JobKey) : Except Error Job :=
  match s with
  | memory jobs =>
    match jobs.get? key with
    | some job => .ok job
    | none => .error (missing key)
  | database jobs true =>
    match jobs.get? key with
    | some job => job
    | none => .error (missing key)
  | database _ false => .error unavailable

/-- Keep a job under its own key. -/
def save (s : Store) (job : Job) (now : Instant) : Except Error Store :=
  match s with
  | memory jobs => .ok (memory (jobs.save job))
  | database jobs true => .ok (database (jobs.save job now) true)
  | database _ false => .error unavailable

/-- The jobs of an account, the oldest first. -/
def list (s : Store) (account : AccountId) : Except Error (List Job) :=
  match s with
  | memory jobs => .ok (jobs.list account)
  | database jobs true => jobs.list account
  | database _ false => .error unavailable

/-- Number of jobs, whosever they are. -/
def size (s : Store) : Except Error Nat :=
  match s with
  | memory jobs => .ok jobs.size
  | database jobs true => .ok jobs.rows.length
  | database _ false => .error unavailable

/-- The rows of the database; a store in memory has none. -/
def rows (s : Store) : Except Error (List Row) :=
  match s with
  | memory _ => .ok []
  | database jobs true => .ok jobs.rows
  | database _ false => .error unavailable

/-- Insert a row as it is. -/
def insertRow (s : Store) (row : Row) : Except Error Store :=
  match s with
  | memory jobs => .ok (memory jobs)
  | database jobs true =>
    match jobs.insert row with
    | .ok jobs => .ok (database jobs true)
    | .error e => .error (.storage e)
  | database _ false => .error unavailable

/-- Close the connections to the database. -/
def close : Store → Store
  | memory jobs => memory jobs
  | database jobs _ => database jobs false

end Store

end JobNode
