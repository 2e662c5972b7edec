import JobNode.Queue.Startup
import JobNode.Queue.Stopping
import JobNode.Schedule.Script

/-!
# Pools with a bell

A host is a pool of workers, on its own or inside a queue server, together with the bell that rings
when a submission comes in.  The bell wakes the worker that has waited longest; when none waits, it
is remembered for the next one, but only once.  A host can be told to let some of its steps fail.
-/

namespace JobNode.Schedule

/-- The pool of a host. -/
inductive Machine where
  /-- A pool on its own, with the idle wait of its workers. -/
  | pool (idleWait : Duration) (shared : SharedPool Task)
  | server (shared : SharedServer Task)

namespace Machine

/-- The pool itself. -/
def inner : Machine → Pool Task
  | pool _ s => s.pool
  | server s => s.server.pool

/-- How long an idle worker waits. -/
def idleWait : Machine → Duration
  | pool wait _ => wait
  | server s => s.server.settings.idleWait

/-- A step of a worker, or the end of a body that was told to end. -/
def work (e : Pool.Event) : Machine → Option Machine
  | pool wait s => (s.apply (.pool e)).map (pool wait)
  | server s =>
    match e with
    | .cease i => (s.apply (.server (.cease i))).map server
    | e => (s.apply (.server (.work e))).map server

end Machine

/-- A pool with its bell. -/
structure Host where
  machine : Machine
  /-- The bell rang when nobody waited. -/
  rung : Bool := false
  /-- The workers that wait, the longest first. -/
  waiters : List Nat := []
  /-- The waiters that the bell has woken. -/
  woken : List Nat := []
  /-- So many of the next takes fail. -/
  failTake : Nat := 0
  /-- So many of the next outcomes are lost. -/
  failStore : Nat := 0
  /-- The server was told to stop. -/
  cancelled : Bool := false

namespace Host

/-- The pool of the host. -/
def pool (h : Host) : Pool Task := h.machine.inner

/-- Carry out steps of a worker that can happen. -/
def work (h : Host) (events : List Pool.Event) : Host :=
  { h with machine := events.foldl (fun m e => (m.work e).getD m) h.machine }

/-- Ring the bell. -/
def ring (h : Host) : Host :=
  match h.waiters with
  | w :: rest => { h with waiters := rest, woken := h.woken ++ [w] }
  | [] => { h with rung := true }

/-- The worker no longer waits. -/
def rouse (h : Host) (w : Nat) : Host :=
  { h with waiters := h.waiters.erase w, woken := h.woken.erase w }

/-- What a worker comes to that runs until it has to wait. -/
inductive Rest where
  /-- It waits for the bell, at most until some time. -/
  | parked (alarm : Nat)
  /-- It runs a body, at most until some time. -/
  | body (script : Script) (limit : Nat)
  | gone

/-- A worker with nothing to do waits, or leaves if it should stop.  It takes at least a millisecond
to look again. -/
def idle (h : Host) (w now : Nat) : Host × Option Rest :=
  if h.pool.cancelled then (h.work [.exit w], some .gone)
  else if h.rung then ({ h.work [.wake w] with rung := false }, none)
  else
    let alarm := max (timerAt now h.machine.idleWait) (now + 1000000)
    ({ h with waiters := h.waiters ++ [w] }, some (.parked alarm))

/-- The outcome of a worker is recorded, or lost. -/
def settle (h : Host) (w : Nat) : Host :=
  let h := h.work [.uncount w]
  match h.failStore with
  | 0 => h.work [.store w]
  | n + 1 => { h.work [.lose w] with failStore := n }

/-- A worker takes submissions until it has to wait, for at most `fuel` of them. -/
def drain (w now : Nat) : Nat → Host → Scene → Host × Scene × Rest
  | 0, h, s => (h, s, .gone)
  | fuel + 1, h, s =>
    let park (h : Host) : Host × Scene × Rest :=
      match (h.work [.look w, .rest w]).idle w now with
      | (h, some rest) => (h, s, rest)
      | (h, none) => drain w now fuel h s
    if h.pool.cancelled then park h
    else
      match h.failTake, h.pool.pending with
      | n + 1, _ => park { h with failTake := n }
      | 0, [] => park h
      | 0, _ :: _ =>
        let (date, s) := s.look now
        let h := h.work [.look w, .take w, .count w, .begin w date]
        match h.pool.workers[w]? with
        | some (.running submission task limit) =>
          (h, s, .body (task submission.params) (timerAt now limit))
        | _ => drain w now fuel (h.settle w) s

/-- The most submissions and wake-ups that a worker handles in one turn. -/
def fuel (h : Host) : Nat := 2 * h.pool.pending.length + h.failTake + 4

/-- A worker goes on after it was woken. -/
def wake (h : Host) (w now : Nat) (s : Scene) : Host × Scene × Rest :=
  let h := h.rouse w
  if h.pool.cancelled then (h.work [.exit w], s, .gone)
  else
    let h := h.work [.wake w]
    Host.drain w now h.fuel h s

end Host

end JobNode.Schedule
