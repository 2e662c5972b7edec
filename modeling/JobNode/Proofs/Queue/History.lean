import JobNode.Proofs.Run
import JobNode.Queue.Server

/-!
# What happens to submissions

The history of a queue server says when it opened and stopped accepting, and for every submission
when it was accepted, who took it from the queue, whether its body was started, and which outcome
was recorded.

* `Pool.Step`, `Pool.step_of_apply`: the ways in which a pool may go on.
* `Pool.WorkerStep`, `Pool.workerStep_of_apply`: what a step of a worker has to do with its deeds.
* `Server.does_of_mem`: which deeds a step can do.
* `Server.history`: the deeds of a run of the server.
-/

namespace JobNode

/-- What happens to submissions. -/
inductive Deed where
  /-- The server opens, with nothing in it. -/
  | opened
  | accepted (x : Submission)
  /-- The server accepts nothing more. -/
  | halted
  | taken (taker : Taker) (x : Submission)
  /-- The body of the task is started. -/
  | begun (w : Nat) (x : Submission)
  /-- The body of the task is told to end, as it goes on for too long. -/
  | cut (w : Nat) (x : Submission)
  /-- The outcome is handed to the backend. -/
  | settled (taker : Taker) (x : Submission) (outcome : Outcome)
  /-- The outcome is handed to the backend, which does not keep it. -/
  | lost (w : Nat) (x : Submission)
  /-- The handle is dropped. -/
  | dropped (id : TaskId)

/-- A list of deeds, the earliest first. -/
abbrev Deeds := List Deed

namespace Deeds

/-- The accepted submissions. -/
def accepted (h : Deeds) : List Submission :=
  h.filterMap fun
    | .accepted x => some x
    | _ => none

/-- The submissions that were taken, and by whom. -/
def takings (h : Deeds) : List (Taker × Submission) :=
  h.filterMap fun
    | .taken t x => some (t, x)
    | _ => none

/-- The submissions whose bodies were started, and by which worker. -/
def begun (h : Deeds) : List (Taker × Submission) :=
  h.filterMap fun
    | .begun w x => some (.worker w, x)
    | _ => none

/-- The recorded outcomes, and who recorded them. -/
def settlements (h : Deeds) : List (Taker × Submission × Outcome) :=
  h.filterMap fun
    | .settled t x outcome => some (t, x, outcome)
    | _ => none

/-- What a taker took. -/
def takenBy (t : Taker) (h : Deeds) : List Submission :=
  (h.takings.filter (·.1 = t)).map (·.2)

/-- What a taker started. -/
def begunBy (t : Taker) (h : Deeds) : List Submission :=
  (h.begun.filter (·.1 = t)).map (·.2)

/-- What a taker settled. -/
def settledBy (t : Taker) (h : Deeds) : List Submission :=
  (h.settlements.filter (·.1 = t)).map (·.2.1)

/-- The submissions whose outcomes were handed to the backend, kept or not, and by whom. -/
def disposals (h : Deeds) : List (Taker × Submission) :=
  h.filterMap fun
    | .settled t x _ => some (t, x)
    | .lost w x => some (.worker w, x)
    | _ => none

/-- What a taker handed over. -/
def disposedBy (t : Taker) (h : Deeds) : List Submission :=
  (h.disposals.filter (·.1 = t)).map (·.2)

/-- The backend after deeds. -/
def replay (b : Backend) (h : Deeds) : Backend :=
  h.foldl
    (fun b deed =>
      match deed with
      | .opened => .empty
      | .settled _ x outcome => b.set x.id outcome
      | .dropped id => b.forget id
      | _ => b)
    b

variable (h k : Deeds) (t : Taker)

@[simp]
theorem accepted_append : accepted (h ++ k) = h.accepted ++ k.accepted :=
  List.filterMap_append

@[simp]
theorem takings_append : takings (h ++ k) = h.takings ++ k.takings :=
  List.filterMap_append

@[simp]
theorem settlements_append : settlements (h ++ k) = h.settlements ++ k.settlements :=
  List.filterMap_append

@[simp]
theorem disposals_append : disposals (h ++ k) = h.disposals ++ k.disposals :=
  List.filterMap_append

/-- While the backend keeps every outcome, what is handed over is recorded. -/
theorem disposals_eq {h : Deeds} (kept : ∀ w x, .lost w x ∉ h) :
    h.disposals = h.settlements.map fun entry => (entry.1, entry.2.1) := by
  induction h with
  | nil => rfl
  | cons d h ih =>
    have later := ih fun w x mem => kept w x (List.mem_cons_of_mem _ mem)
    cases d with
    | lost w x => exact absurd List.mem_cons_self (kept w x)
    | settled t x outcome => exact congrArg ((t, x) :: ·) later
    | _ => exact later

/-- What is recorded was handed over, in the same order. -/
theorem settlements_sublist (h : Deeds) :
    (h.settlements.map fun entry => (entry.1, entry.2.1)).Sublist h.disposals := by
  induction h with
  | nil => exact .refl _
  | cons d h ih =>
    cases d with
    | settled t x outcome => exact ih.cons_cons (t, x)
    | lost w x => exact ih.cons _
    | _ => exact ih

@[simp]
theorem takenBy_append : takenBy t (h ++ k) = h.takenBy t ++ k.takenBy t := by
  simp [takenBy]

@[simp]
theorem begunBy_append : begunBy t (h ++ k) = h.begunBy t ++ k.begunBy t := by
  simp [begunBy, begun]

@[simp]
theorem settledBy_append : settledBy t (h ++ k) = h.settledBy t ++ k.settledBy t := by
  simp [settledBy]

@[simp]
theorem disposedBy_append : disposedBy t (h ++ k) = h.disposedBy t ++ k.disposedBy t := by
  simp [disposedBy]

theorem disposedBy_eq {h : Deeds} (kept : ∀ w x, .lost w x ∉ h) (t : Taker) :
    h.disposedBy t = h.settledBy t := by
  rw [disposedBy, settledBy, disposals_eq kept, List.filter_map, List.map_map]
  rfl

@[simp]
theorem replay_append (b : Backend) : replay b (h ++ k) = k.replay (h.replay b) :=
  List.foldl_append

end Deeds

/-! ## Deeds of a step -/

namespace Worker

variable {τ : Type}

/-- The submission that the worker has taken and whose body may still be started. -/
def unstarted? : Worker τ → Option Submission
  | holding x | counted x => some x
  | _ => none

/-- The outcome that the worker is going to record. -/
def outcome? : Worker τ → Option Outcome
  | finished _ outcome | storing _ outcome => some outcome
  | _ => none

end Worker

/-- The outcomes that a worker may come to with a submission, given the registered tasks. -/
inductive Submission.Earns {τ : Type} (registry : Dict τ) (x : Submission) : Outcome → Prop
  | settled {outcome : Outcome} (now : Instant) :
    x.start registry now = .settled outcome → Earns registry x outcome
  | ended (last : BodyEnd) : Earns registry x (x.outcome last)
  | overran : Earns registry x x.expired

theorem Submission.Earns.ne_closed {τ : Type} {registry : Dict τ} {x : Submission}
    {outcome : Outcome} (earns : x.Earns registry outcome) : outcome ≠ .error .closed := by
  cases earns with
  | settled now settled =>
    unfold start at settled
    split at settled
    · cases settled
      nofun
    · split at settled
      · cases settled
        nofun
      · cases settled
  | ended last => cases last <;> nofun
  | overran => nofun

namespace Pool

variable {τ : Type}

/-- What a step of the pool does to submissions. -/
def deeds (p : Pool τ) : Event → Deeds
  | .send x => [.accepted x]
  | .forget id => [.dropped id]
  | .take w => p.pending.head?.toList.map (.taken (.worker w))
  | .begin w now =>
    match p.workers[w]? with
    | some (.counted x) =>
      match x.start p.registry now with
      | .run _ _ => [.begun w x]
      | .settled _ => []
    | _ => []
  | .overrun w =>
    match p.workers[w]? with
    | some (.running x _ _) => [.cut w x]
    | _ => []
  | .store w =>
    match p.workers[w]? with
    | some (.storing x outcome) => [.settled (.worker w) x outcome]
    | _ => []
  | .lose w =>
    match p.workers[w]? with
    | some (.storing x _) => [.lost w x]
    | _ => []
  | _ => []

/-- Which deeds a step of the pool can do, and when. -/
inductive Does (p : Pool τ) : Event → Deed → Prop
  | sends (x : Submission) : Does p (.send x) (.accepted x)
  | drops (id : TaskId) : Does p (.forget id) (.dropped id)
  | takes {w : Nat} {x : Submission} (first : p.pending.head? = some x) :
    Does p (.take w) (.taken (.worker w) x)
  | begins {w : Nat} {now : Instant} {x : Submission}
    (counted : p.workers[w]? = some (.counted x)) : Does p (.begin w now) (.begun w x)
  | cuts {w : Nat} {x : Submission} {task : τ} {limit : Duration}
    (running : p.workers[w]? = some (.running x task limit)) : Does p (.overrun w) (.cut w x)
  | stores {w : Nat} {x : Submission} {outcome : Outcome}
    (storing : p.workers[w]? = some (.storing x outcome)) :
    Does p (.store w) (.settled (.worker w) x outcome)
  | loses {w : Nat} {x : Submission} {outcome : Outcome}
    (storing : p.workers[w]? = some (.storing x outcome)) : Does p (.lose w) (.lost w x)

theorem does_of_mem {p : Pool τ} {e : Event} {deed : Deed} (mem : deed ∈ p.deeds e) :
    p.Does e deed := by
  cases e with
  | send x =>
    rw [List.mem_singleton.1 mem]
    exact .sends x
  | forget id =>
    rw [List.mem_singleton.1 mem]
    exact .drops id
  | take w =>
    obtain ⟨x, first, rfl⟩ := List.mem_map.1 mem
    exact .takes (Option.mem_toList.1 first)
  | begin w now =>
    rw [deeds] at mem
    split at mem
    next counted =>
      split at mem
      · rw [List.mem_singleton.1 mem]
        exact .begins counted
      · cases mem
    · cases mem
  | overrun w =>
    rw [deeds] at mem
    split at mem
    next running =>
      rw [List.mem_singleton.1 mem]
      exact .cuts running
    · cases mem
  | store w =>
    rw [deeds] at mem
    split at mem
    next storing =>
      rw [List.mem_singleton.1 mem]
      exact .stores storing
    · cases mem
  | lose w =>
    rw [deeds] at mem
    split at mem
    next storing =>
      rw [List.mem_singleton.1 mem]
      exact .loses storing
    · cases mem
  | _ => cases mem

/-- The ways in which a pool may go on. -/
inductive Step (p : Pool τ) : Event → Pool τ → Prop
  | send (x : Submission) : Step p (.send x) { p with pending := p.pending ++ [x] }
  | start (n : Nat) : p.closed = false →
    Step p (.start n) { p with workers := p.workers ++ List.replicate n .parked }
  | refuse (n : Nat) : p.closed = true → Step p (.start n) p
  | cancel : Step p .cancel { p with cancelled := true }
  | close : Step p .close { p with closed := true }
  | forget (id : TaskId) : Step p (.forget id) { p with backend := p.backend.forget id }
  | cease (i : Nat) : Step p (.cease i) { p with strays := p.strays.eraseIdx i }
  | wake {w : Nat} : p.workers[w]? = some .parked → Step p (.wake w) (p.setWorker w .draining)
  | look {w : Nat} : p.workers[w]? = some .draining → p.cancelled = false →
    Step p (.look w) (p.setWorker w .looking)
  | stop {w : Nat} : p.workers[w]? = some .draining → p.cancelled = true →
    Step p (.rest w) (p.setWorker w .parked)
  | rest {w : Nat} : p.workers[w]? = some .looking → Step p (.rest w) (p.setWorker w .parked)
  | exit {w : Nat} : p.workers[w]? = some .parked → p.cancelled = true →
    Step p (.exit w) (p.setWorker w .exited)
  | take {w : Nat} {x : Submission} {rest : List Submission} :
    p.workers[w]? = some .looking → p.pending = x :: rest →
    Step p (.take w) { p.setWorker w (.holding x) with pending := rest }
  | count {w : Nat} {x : Submission} : p.workers[w]? = some (.holding x) →
    Step p (.count w) { p.setWorker w (.counted x) with active := p.active + 1 }
  | settle {w : Nat} {x : Submission} {now : Instant} {outcome : Outcome} :
    p.workers[w]? = some (.counted x) → x.start p.registry now = .settled outcome →
    Step p (.begin w now) (p.setWorker w (.finished x outcome))
  | run {w : Nat} {x : Submission} {now : Instant} {task : τ} {limit : Duration} :
    p.workers[w]? = some (.counted x) → x.start p.registry now = .run task limit →
    Step p (.begin w now) (p.setWorker w (.running x task limit))
  | finish {w : Nat} {x : Submission} {task : τ} {limit : Duration} (last : BodyEnd) :
    p.workers[w]? = some (.running x task limit) →
    Step p (.finish w last) (p.setWorker w (.finished x (x.outcome last)))
  | overrun {w : Nat} {x : Submission} {task : τ} {limit : Duration} :
    p.workers[w]? = some (.running x task limit) →
    Step p (.overrun w) { p.setWorker w (.finished x x.expired) with strays := p.strays ++ [x] }
  | uncount {w : Nat} {x : Submission} {outcome : Outcome} :
    p.workers[w]? = some (.finished x outcome) →
    Step p (.uncount w) { p.setWorker w (.storing x outcome) with active := p.active - 1 }
  | store {w : Nat} {x : Submission} {outcome : Outcome} :
    p.workers[w]? = some (.storing x outcome) →
    Step p (.store w) { p.setWorker w .draining with backend := p.backend.set x.id outcome }
  | lose {w : Nat} {x : Submission} {outcome : Outcome} :
    p.workers[w]? = some (.storing x outcome) → Step p (.lose w) (p.setWorker w .draining)

theorem step_of_apply {p next : Pool τ} {e : Event} (happens : p.apply e = some next) :
    p.Step e next := by
  cases e with
  | send x =>
    cases happens
    exact .send x
  | start n =>
    rw [apply, Option.some.injEq] at happens
    split at happens
    next closed => exact happens ▸ .refuse n closed
    next opened => exact happens ▸ .start n (by simpa using opened)
  | cancel =>
    cases happens
    exact .cancel
  | close =>
    cases happens
    exact .close
  | forget id =>
    cases happens
    exact .forget id
  | cease i =>
    cases happens
    exact .cease i
  | wake w =>
    rw [apply] at happens
    split at happens
    next was =>
      cases happens
      exact .wake was
    · cases happens
  | look w =>
    rw [apply] at happens
    split at happens
    next was runs =>
      cases happens
      exact .look was runs
    · cases happens
  | rest w =>
    rw [apply] at happens
    split at happens
    next was told =>
      cases happens
      exact .stop was told
    next _ was => cases happens; exact .rest was
    · cases happens
  | exit w =>
    rw [apply] at happens
    split at happens
    next was told =>
      cases happens
      exact .exit was told
    · cases happens
  | take w =>
    rw [apply] at happens
    split at happens
    next was pending =>
      cases happens
      exact .take was pending
    · cases happens
  | count w =>
    rw [apply] at happens
    split at happens
    next was =>
      cases happens
      exact .count was
    · cases happens
  | begin w now =>
    rw [apply] at happens
    split at happens
    next was =>
      split at happens
      next start =>
        cases happens
        exact .settle was start
      next start =>
        cases happens
        exact .run was start
    · cases happens
  | finish w last =>
    rw [apply] at happens
    split at happens
    next was =>
      cases happens
      exact .finish last was
    · cases happens
  | overrun w =>
    rw [apply] at happens
    split at happens
    next was =>
      cases happens
      exact .overrun was
    · cases happens
  | uncount w =>
    rw [apply] at happens
    split at happens
    next was =>
      cases happens
      exact .uncount was
    · cases happens
  | store w =>
    rw [apply] at happens
    split at happens
    next was =>
      cases happens
      exact .store was
    · cases happens
  | lose w =>
    rw [apply] at happens
    split at happens
    next was =>
      cases happens
      exact .lose was
    · cases happens

/-- What a step of one worker changes: its own state, and the queue and the backend as far as its
deeds say so. -/
structure WorkerStep (p next : Pool τ) (h : Deeds) (w : Nat) (before after : Worker τ) : Prop where
  was : p.workers[w]? = some before
  alive : before ≠ .exited
  workers : next.workers = p.workers.set w after
  accepted : h.accepted = []
  unhalted : .halted ∉ h
  queue : p.pending = h.takings.map (·.2) ++ next.pending
  backend : next.backend = h.replay p.backend
  custody : before.held?.toList ++ h.takenBy (.worker w) =
    h.disposedBy (.worker w) ++ after.held?.toList
  begins : (h.begunBy (.worker w) ++ after.unstarted?.toList).Sublist
    (before.unstarted?.toList ++ h.takenBy (.worker w))
  others : ∀ t ≠ .worker w, h.takenBy t = [] ∧ h.begunBy t = [] ∧ h.disposedBy t = []
  outcomes : ∀ settled ∈ h.settlements,
    settled.1 = .worker w ∧ before.outcome? = some settled.2.2
  earned : ∀ outcome, after.outcome? = some outcome →
    before.outcome? = some outcome ∨ ∃ x, before.held? = some x ∧ x.Earns p.registry outcome
  registry : next.registry = p.registry

/-- What a worker has taken and not settled. -/
def held (p : Pool τ) (w : Nat) : List Submission := (p.workers[w]?.bind Worker.held?).toList

/-- A submission passes only into or out of the hands of the worker that takes the step. -/
theorem WorkerStep.hands {p next : Pool τ} {h : Deeds} {w : Nat} {before after : Worker τ}
    (step : WorkerStep p next h w before after) (v : Nat) :
    p.held v ++ h.takenBy (.worker v) = h.disposedBy (.worker v) ++ next.held v := by
  rw [held, held, step.workers]
  by_cases own : v = w
  · subst own
    rw [step.was, List.getElem?_set_self (List.getElem?_eq_some_iff.1 step.was).1]
    exact step.custody
  · obtain ⟨taken, -, disposed⟩ := step.others (.worker v) fun same => own (Taker.worker.inj same)
    rw [taken, disposed, List.getElem?_set_ne (Ne.symm own)]
    exact List.append_nil _

/-- No worker comes to the closing of the queue. -/
theorem WorkerStep.honest {p next : Pool τ} {h : Deeds} {w : Nat} {before after : Worker τ}
    (step : WorkerStep p next h w before after)
    (honest : before.outcome? ≠ some (.error .closed)) : after.outcome? ≠ some (.error .closed) := by
  intro closed
  rcases step.earned _ closed with old | ⟨x, -, earns⟩
  · exact honest old
  · exact earns.ne_closed rfl

/-- A step that takes, starts and settles nothing. -/
theorem WorkerStep.silent {p next : Pool τ} {w : Nat} {before after : Worker τ}
    (was : p.workers[w]? = some before) (alive : before ≠ .exited)
    (workers : next.workers = p.workers.set w after)
    (pending : next.pending = p.pending) (backend : next.backend = p.backend)
    (held : after.held? = before.held?)
    (unstarted : after.unstarted? = none ∨ after.unstarted? = before.unstarted?)
    (registry : next.registry = p.registry)
    (earned : ∀ outcome, after.outcome? = some outcome →
      before.outcome? = some outcome ∨ ∃ x, before.held? = some x ∧ x.Earns p.registry outcome) :
    WorkerStep p next [] w before after where
  was := was
  alive := alive
  workers := workers
  accepted := rfl
  unhalted := List.not_mem_nil
  queue := pending.symm
  backend := backend
  custody := by rw [held]; exact List.append_nil _
  begins := by
    rcases unstarted with none | same
    · rw [none]
      exact List.nil_sublist _
    · rw [same]
      exact List.sublist_append_left _ _
  others := fun _ _ => ⟨rfl, rfl, rfl⟩
  outcomes := fun _ mem => nomatch mem
  earned := earned
  registry := registry

/-- What a worker takes passes from the queue into its hands, not started yet. -/
theorem WorkerStep.take {p : Pool τ} {w : Nat} {x : Submission} {rest : List Submission}
    (was : p.workers[w]? = some .looking) (pending : p.pending = x :: rest) :
    WorkerStep p { p.setWorker w (.holding x) with pending := rest } [.taken (.worker w) x] w
      .looking (.holding x) where
  was := was
  alive := nofun
  workers := rfl
  accepted := rfl
  unhalted := by simp
  queue := pending
  backend := rfl
  custody := by
    simp [Deeds.takenBy, Deeds.takings, Deeds.disposedBy, Deeds.disposals, Worker.held?]
  begins := by
    simp [Deeds.takenBy, Deeds.takings, Deeds.begunBy, Deeds.begun, Worker.unstarted?]
  others t ne := by
    simp [Deeds.takenBy, Deeds.takings, Deeds.begunBy, Deeds.begun, Deeds.disposedBy,
      Deeds.disposals, ne.symm]
  outcomes := fun _ mem => nomatch mem
  earned := fun _ => nofun
  registry := rfl

/-- A body is started for what the worker holds, which it then cannot start again. -/
theorem WorkerStep.begin {p : Pool τ} {w : Nat} {x : Submission} {task : τ} {limit : Duration}
    (was : p.workers[w]? = some (.counted x)) :
    WorkerStep p (p.setWorker w (.running x task limit)) [.begun w x] w (.counted x)
      (.running x task limit) where
  was := was
  alive := nofun
  workers := rfl
  accepted := rfl
  unhalted := by simp
  queue := rfl
  backend := rfl
  custody := rfl
  begins := by
    simp [Deeds.takenBy, Deeds.takings, Deeds.begunBy, Deeds.begun, Worker.unstarted?]
  others t ne := by
    simp [Deeds.takenBy, Deeds.takings, Deeds.begunBy, Deeds.begun, Deeds.disposedBy,
      Deeds.disposals, ne.symm]
  outcomes := fun _ mem => nomatch mem
  earned := fun _ => nofun
  registry := rfl

/-- A worker comes to an outcome at once when the body goes on for too long. -/
theorem WorkerStep.overrun {p : Pool τ} {w : Nat} {x : Submission} {task : τ} {limit : Duration}
    (was : p.workers[w]? = some (.running x task limit)) :
    WorkerStep p { p.setWorker w (.finished x x.expired) with strays := p.strays ++ [x] }
      [.cut w x] w (.running x task limit) (.finished x x.expired) where
  was := was
  alive := nofun
  workers := rfl
  accepted := rfl
  unhalted := by simp
  queue := rfl
  backend := rfl
  custody := rfl
  begins := List.nil_sublist _
  others := fun _ _ => ⟨rfl, rfl, rfl⟩
  outcomes := fun _ mem => nomatch mem
  earned := by
    rintro _ ⟨⟩
    exact .inr ⟨x, rfl, .overran⟩
  registry := rfl

/-- What a worker settles leaves its hands. -/
theorem WorkerStep.store {p : Pool τ} {w : Nat} {x : Submission} {outcome : Outcome}
    (was : p.workers[w]? = some (.storing x outcome)) :
    WorkerStep p { p.setWorker w .draining with backend := p.backend.set x.id outcome }
      [.settled (.worker w) x outcome] w (.storing x outcome) .draining where
  was := was
  alive := nofun
  workers := rfl
  accepted := rfl
  unhalted := by simp
  queue := rfl
  backend := rfl
  custody := by
    simp [Deeds.takenBy, Deeds.takings, Deeds.disposedBy, Deeds.disposals, Worker.held?]
  begins := by simp [Deeds.begunBy, Deeds.begun, Worker.unstarted?]
  others t ne := by
    simp [Deeds.takenBy, Deeds.takings, Deeds.begunBy, Deeds.begun, Deeds.disposedBy,
      Deeds.disposals, ne.symm]
  outcomes := fun _ mem => by
    rw [List.mem_singleton.1 mem]
    exact ⟨rfl, rfl⟩
  earned := fun _ => nofun
  registry := rfl

/-- A worker hands over an outcome that the backend does not keep. -/
theorem WorkerStep.lose {p : Pool τ} {w : Nat} {x : Submission} {outcome : Outcome}
    (was : p.workers[w]? = some (.storing x outcome)) :
    WorkerStep p (p.setWorker w .draining) [.lost w x] w (.storing x outcome) .draining where
  was := was
  alive := nofun
  workers := rfl
  accepted := rfl
  unhalted := by simp
  queue := rfl
  backend := rfl
  custody := by
    simp [Deeds.takenBy, Deeds.takings, Deeds.disposedBy, Deeds.disposals, Worker.held?]
  begins := by simp [Deeds.begunBy, Deeds.begun, Worker.unstarted?]
  others t ne := by
    simp [Deeds.takenBy, Deeds.takings, Deeds.begunBy, Deeds.begun, Deeds.disposedBy,
      Deeds.disposals, ne.symm]
  outcomes := fun _ mem => nomatch mem
  earned := fun _ => nofun
  registry := rfl

/-- Every step of a worker changes the state of that worker. -/
theorem workerStep_of_apply {p next : Pool τ} {e : Event} {w : Nat} (own : e.worker? = some w)
    (happens : p.apply e = some next) :
    ∃ before after, WorkerStep p next (p.deeds e) w before after := by
  cases step_of_apply happens with
  | send | start | refuse | cancel | close | forget | cease => cases own
  | wake was | look was | stop was | rest was | exit was =>
    cases own
    exact ⟨_, _, .silent was nofun rfl rfl rfl rfl (.inl rfl) rfl fun _ => nofun⟩
  | @take w x rest was pending =>
    cases own
    have noted : p.deeds (.take w) = [.taken (.worker w) x] := by simp [deeds, pending]
    rw [noted]
    exact ⟨_, _, .take was pending⟩
  | count was =>
    cases own
    exact ⟨_, _, .silent was nofun rfl rfl rfl rfl (.inr rfl) rfl fun _ => nofun⟩
  | @settle w x now outcome was start =>
    cases own
    have noted : p.deeds (.begin w now) = [] := by simp [deeds, was, start]
    rw [noted]
    refine ⟨_, _, .silent was nofun rfl rfl rfl rfl (.inl rfl) rfl ?_⟩
    rintro _ ⟨⟩
    exact .inr ⟨x, rfl, .settled now start⟩
  | @run w x now task limit was start =>
    cases own
    have noted : p.deeds (.begin w now) = [.begun w x] := by simp [deeds, was, start]
    rw [noted]
    exact ⟨_, _, .begin was⟩
  | @finish w x task limit last was =>
    cases own
    refine ⟨_, _, .silent was nofun rfl rfl rfl rfl (.inl rfl) rfl ?_⟩
    rintro _ ⟨⟩
    exact .inr ⟨x, rfl, .ended last⟩
  | @overrun w x task limit was =>
    cases own
    have noted : p.deeds (.overrun w) = [.cut w x] := by simp [deeds, was]
    rw [noted]
    exact ⟨_, _, .overrun was⟩
  | uncount was =>
    cases own
    exact ⟨_, _, .silent was nofun rfl rfl rfl rfl (.inl rfl) rfl fun _ => .inl⟩
  | @store w x outcome was =>
    cases own
    have noted : p.deeds (.store w) = [.settled (.worker w) x outcome] := by simp [deeds, was]
    rw [noted]
    exact ⟨_, _, .store was⟩
  | @lose w x outcome was =>
    cases own
    have noted : p.deeds (.lose w) = [.lost w x] := by simp [deeds, was]
    rw [noted]
    exact ⟨_, _, .lose was⟩

theorem Event.exists_worker {e : Event} (keeps : e.isWorkerStep = true) :
    ∃ w, e.worker? = some w := by
  cases e <;> first | exact ⟨_, rfl⟩ | cases keeps

/-- A worker that keeps every outcome loses none. -/
theorem lost_not_mem (p : Pool τ) {e : Event} (keeps : e.isWorkerStep = true) (w : Nat)
    (x : Submission) : .lost w x ∉ p.deeds e := by
  intro mem
  cases does_of_mem mem with
  | loses => cases keeps

end Pool

namespace Server

variable {τ : Type}

/-- What a step of the server does to submissions. -/
def deeds (s : Server τ) : Event τ → Deeds
  | .start =>
    match s.start with
    | .ok _ => [.opened]
    | .error _ => []
  | .enqueue id task params now =>
    match s.enqueue id task params now with
    | .ok _ => [.accepted (.create id task params s.settings.taskValidity now)]
    | .error _ => []
  | .forget id => [.dropped id]
  | .work e => s.pool.deeds e
  | .halt => [.halted]
  | .takePending => s.pool.pending.head?.toList.map (.taken .server)
  | .closePending => s.closing?.toList.map fun x => .settled .server x (.error .closed)
  | _ => []

/-- Which deeds a step of the server can do, and when. -/
inductive Does (s : Server τ) : Event τ → Deed → Prop
  | opens {next : Server τ} (started : s.start = .ok next) : Does s .start .opened
  | accepts {id : TaskId} {task : String} {params : Params} {now : Instant} {next : Server τ}
    (sent : s.enqueue id task params now = .ok next) :
    Does s (.enqueue id task params now)
      (.accepted (.create id task params s.settings.taskValidity now))
  | drops (id : TaskId) : Does s (.forget id) (.dropped id)
  | halts : Does s .halt .halted
  | takes {x : Submission} (first : s.pool.pending.head? = some x) :
    Does s .takePending (.taken .server x)
  | closes {x : Submission} (held : s.closing? = some x) :
    Does s .closePending (.settled .server x (.error .closed))
  | works {e : Pool.Event} {deed : Deed} (does : s.pool.Does e deed) : Does s (.work e) deed

theorem does_of_mem {s : Server τ} {e : Event τ} {deed : Deed} (mem : deed ∈ s.deeds e) :
    s.Does e deed := by
  cases e with
  | start =>
    rw [deeds] at mem
    split at mem
    next started =>
      rw [List.mem_singleton.1 mem]
      exact .opens started
    · cases mem
  | enqueue id task params now =>
    rw [deeds] at mem
    split at mem
    next sent =>
      rw [List.mem_singleton.1 mem]
      exact .accepts sent
    · cases mem
  | forget id =>
    rw [List.mem_singleton.1 mem]
    exact .drops id
  | halt =>
    rw [List.mem_singleton.1 mem]
    exact .halts
  | takePending =>
    obtain ⟨x, first, rfl⟩ := List.mem_map.1 mem
    exact .takes (Option.mem_toList.1 first)
  | closePending =>
    obtain ⟨x, held, rfl⟩ := List.mem_map.1 mem
    exact .closes (Option.mem_toList.1 held)
  | work e => exact .works (Pool.does_of_mem mem)
  | _ => cases mem

/-- The server after steps; none if one of them cannot happen. -/
def run? (s : Server τ) (events : List (Event τ)) : Option (Server τ) := Run.last? apply s events

/-- What steps do to submissions. -/
def history (s : Server τ) (events : List (Event τ)) : Deeds := Run.history apply deeds s events

/-- What a taker has taken and not settled. -/
def holds (s : Server τ) : Taker → List Submission
  | .worker w => (s.pool.workers[w]?.bind Worker.held?).toList
  | .server => s.closing?.toList

end Server

end JobNode
