import JobNode.Error

/-!
# The node

A node runs its servers as one unit.  It waits until a server reports that it could not start, until
it is cancelled from outside, or until all servers have returned; then it cancels all servers and
waits for them.

The node looks at the reports, then whether it was cancelled, then whether all servers have returned,
and begins again if it has found nothing.  The servers and the caller go on in between: a report that
comes in after the look at the reports goes unseen if one of the other two looks ends the wait.

`Node.apply` is one step of the node, of a server or of the caller; a run of the node is any
sequence of steps.
-/

namespace JobNode

/-- How far a server of a node has come. -/
inductive Member where
  /-- Its start has not been called yet. -/
  | spawned
  | running
  | returned
  deriving DecidableEq

/-- What a node that waits looks at. -/
inductive Look where
  | reports
  | cancellation
  | servers
  deriving DecidableEq

/-- A node that runs its servers. -/
structure Node where
  members : List Member
  /-- The members that have reported an error; each does so at most once. -/
  reporters : List Nat
  /-- Number of reports that can wait. -/
  capacity : Nat
  /-- The reports that wait to be seen, the oldest first. -/
  reports : List Error
  /-- What the node looks at next while it waits. -/
  upcoming : Look
  /-- The caller has cancelled the node. -/
  cancelled : Bool
  /-- The servers were cancelled by the node. -/
  stopping : Bool
  /-- How the wait ended, once it has. -/
  outcome : Option (Except Error Unit)
  /-- The run has returned. -/
  finished : Bool

namespace Node

/-- A node that starts so many servers. -/
def create (servers : Nat) : Node where
  members := List.replicate servers .spawned
  reporters := []
  capacity := max servers 1
  reports := []
  upcoming := .reports
  cancelled := false
  stopping := false
  outcome := none
  finished := false

/-- The servers are told to stop, by the caller or by the node. -/
def serversCancelled (n : Node) : Bool := n.cancelled || n.stopping

/-- All servers have returned. -/
def allReturned (n : Node) : Bool := n.members.all (· == .returned)

/-- How the wait ends if the node begins to look now and nothing happens until it has seen all. -/
def verdict? (n : Node) : Option (Except Error Unit) :=
  match n.reports with
  | e :: _ => some (.error e)
  | [] => if n.cancelled || n.allReturned then some (.ok ()) else none

/-- The wait ends, and the servers are cancelled. -/
def conclude (n : Node) (outcome : Except Error Unit) : Node :=
  { n with outcome := some outcome, stopping := true }

/-- A step of the node, of a server or of the caller. -/
inductive Event where
  /-- The start of a server is called. -/
  | enter (i : Nat)
  /-- A server reports that it could not start. -/
  | report (i : Nat) (e : Error)
  /-- A server returns or panics. -/
  | leave (i : Nat)
  /-- The caller cancels the node. -/
  | cancel
  /-- The node looks at what comes next in its wait, which ends if there is something. -/
  | look
  /-- The run returns. -/
  | finish

/-- One step; none if it cannot happen. -/
def apply (n : Node) : Event → Option Node
  | .enter i =>
    match n.members[i]? with
    | some .spawned => some { n with members := n.members.set i .running }
    | _ => none
  | .report i e =>
    match n.members[i]? with
    | some .running =>
      if n.reporters.contains i then none
      else if n.reports.length < n.capacity then
        some { n with reporters := n.reporters ++ [i], reports := n.reports ++ [e] }
      else none
    | _ => none
  | .leave i =>
    match n.members[i]? with
    | some .running => some { n with members := n.members.set i .returned }
    | _ => none
  | .cancel => some { n with cancelled := true }
  | .look =>
    match n.outcome, n.upcoming with
    | some _, _ => none
    | none, .reports =>
      match n.reports with
      | e :: rest => some ({ n with reports := rest }.conclude (.error e))
      | [] => some { n with upcoming := .cancellation }
    | none, .cancellation =>
      some (if n.cancelled then n.conclude (.ok ()) else { n with upcoming := .servers })
    | none, .servers =>
      some (if n.allReturned then n.conclude (.ok ()) else { n with upcoming := .reports })
  | .finish =>
    if n.outcome.isSome ∧ n.allReturned then some { n with finished := true } else none

end Node

end JobNode
