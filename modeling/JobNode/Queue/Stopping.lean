import JobNode.Queue.Pool

/-!
# Stopping a pool that others are using

A pool starts the same number of workers at each start.  A call that stops it tells the workers to
stop, and then takes the workers over to wait until they are gone.  The first call to get that far
has them all, and no worker is started after that; a later call finds none and has nothing to wait
for.
-/

namespace JobNode

/-- How far a call that stops a pool has come. -/
inductive StopCall where
  /-- Has told the workers to stop. -/
  | called
  /-- Has taken the workers over, and waits until they are gone. -/
  | joining
  | returned
  deriving DecidableEq

/-- A pool with the calls that stop it. -/
structure SharedPool (τ : Type) where
  /-- Number of workers that a start adds. -/
  size : Nat
  pool : Pool τ
  stops : List StopCall

namespace SharedPool

variable {τ : Type}

/-- A pool that nobody has called. -/
def create (size : Nat) (registry : Dict τ) : SharedPool τ := ⟨size, .empty registry, []⟩

/-- A step of a call, of a worker or of one who uses the pool. -/
inductive Event where
  | start
  /-- A call to stop comes in, and tells the workers so. -/
  | stop
  /-- A call takes the workers over, or returns if another has done so. -/
  | claim (i : Nat)
  /-- A call returns whose workers are gone. -/
  | leave (i : Nat)
  /-- The pool goes on in any other way. -/
  | pool (e : Pool.Event)

/-- One step; none if it cannot happen. -/
def apply (s : SharedPool τ) : Event → Option (SharedPool τ)
  | .start => (s.pool.apply (.start s.size)).map fun pool => { s with pool }
  | .stop =>
    (s.pool.apply .cancel).map fun pool => { s with pool, stops := s.stops ++ [.called] }
  | .claim i =>
    match s.stops[i]? with
    | some .called =>
      if s.pool.closed then some { s with stops := s.stops.set i .returned }
      else
        (s.pool.apply .close).map fun pool => { s with pool, stops := s.stops.set i .joining }
    | _ => none
  | .leave i =>
    match s.stops[i]? with
    | some .joining =>
      if s.pool.allExited then some { s with stops := s.stops.set i .returned } else none
    | _ => none
  | .pool e =>
    match e with
    | .start _ | .cancel | .close => none
    | e => (s.pool.apply e).map fun pool => { s with pool }

/-- The call is over, or has nothing left to wait for. -/
def mayReturn (s : SharedPool τ) (i : Nat) : Bool :=
  match s.stops[i]? with
  | some .joining => s.pool.allExited
  | some .returned => true
  | _ => false

end SharedPool

end JobNode
