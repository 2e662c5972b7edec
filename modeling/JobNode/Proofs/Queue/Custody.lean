import JobNode.Proofs.Queue.History

/-!
# Submissions change hands

A submission waits in the queue, is held by a worker or by the server that stops, and is settled.
Each step of a server moves it by at most one place, and its deeds say which.

* `Server.Moves`, `Server.moves_of_apply`: the ways in which a server may go on.
* `Server.step_of_work`: a step of a worker.
* `Server.step_of_apply`: any step of the server.
* `Server.passes_of_apply`: what a step does to the tasks and the workers.
-/

namespace JobNode.Server

variable {τ : Type}

/-- The bodies that a taker may still start. -/
def unstarted (s : Server τ) : Taker → List Submission
  | .worker w => (s.pool.workers[w]?.bind Worker.unstarted?).toList
  | .server => []

/-- The server may still accept submissions, now or after it has started. -/
def mayAccept (s : Server τ) : Prop := s.phase = .idle ∨ s.phase = .running

/-- What holds in every phase of the life of a server. -/
structure Orderly (s : Server τ) : Prop where
  idle : s.phase = .idle → s.pool.pending = [] ∧ s.pool.workers = []
  exited : s.phase = .closing ∨ s.phase = .stopped → ∀ worker ∈ s.pool.workers, worker = .exited
  closing : ∀ x, s.closing? = some x → s.phase = .closing
  stopped : s.phase = .stopped → s.pool.pending = []
  /-- No worker is about to record that the queue was closed. -/
  honest : ∀ worker ∈ s.pool.workers, worker.outcome? ≠ some (.error .closed)

theorem orderly_create (settings : QueueSettings) : (create settings : Server τ).Orderly where
  idle _ := ⟨rfl, rfl⟩
  exited late := by simp [create] at late
  closing _ eq := nomatch eq
  stopped := nofun
  honest _ mem := nomatch mem

/-- What a step changes: the queue, the backend and what the takers hold, as far as its deeds say
so. -/
structure Step (s next : Server τ) (h : Deeds) : Prop where
  orderly : next.Orderly
  queue : s.pool.pending ++ h.accepted = h.takings.map (·.2) ++ next.pool.pending
  backend : next.pool.backend = h.replay s.pool.backend
  custody : ∀ t, s.holds t ++ h.takenBy t = h.settledBy t ++ next.holds t
  begins : ∀ t, (h.begunBy t ++ next.unstarted t).Sublist (s.unstarted t ++ h.takenBy t)
  outcomes : ∀ settled ∈ h.settlements, settled.2.2 = .error .closed ↔ settled.1 = .server
  accepting : h.accepted ≠ [] → s.mayAccept ∧ .halted ∉ h
  halting : next.mayAccept → s.mayAccept ∧ .halted ∉ h

/-- A step after which the takers hold what they held before. -/
theorem Step.unmoved {s next : Server τ} {h : Deeds} (orderly : next.Orderly)
    (taken : h.takings = []) (begun : h.begun = []) (settled : h.settlements = [])
    (queue : next.pool.pending = s.pool.pending ++ h.accepted)
    (backend : next.pool.backend = h.replay s.pool.backend)
    (workers : next.pool.workers = s.pool.workers) (closing : next.closing? = s.closing?)
    (accepting : h.accepted ≠ [] → s.mayAccept ∧ .halted ∉ h)
    (halting : next.mayAccept → s.mayAccept ∧ .halted ∉ h) : Step s next h where
  orderly := orderly
  queue := by rw [taken, queue]; rfl
  backend := backend
  custody t := by
    rw [Deeds.takenBy, Deeds.settledBy, taken, settled]
    cases t <;> simp [holds, workers, closing]
  begins t := by
    rw [Deeds.begunBy, Deeds.takenBy, begun, taken]
    cases t <;> simp [unstarted, workers]
  outcomes := by
    rw [settled]
    exact fun _ mem => by cases mem
  accepting := accepting
  halting := halting

/-- A step that does nothing to submissions. -/
theorem Step.silent {s next : Server τ} (orderly : next.Orderly)
    (queue : next.pool.pending = s.pool.pending) (backend : next.pool.backend = s.pool.backend)
    (workers : next.pool.workers = s.pool.workers) (closing : next.closing? = s.closing?)
    (halting : next.mayAccept → s.mayAccept) : Step s next [] :=
  .unmoved orderly rfl rfl rfl (queue.trans (List.append_nil _).symm) backend workers closing
    (absurd rfl) fun may => ⟨halting may, List.not_mem_nil⟩

/-- A step of a worker moves a submission only into or out of that worker's hands. -/
theorem step_of_work {s : Server τ} {pool : Pool τ} {e : Pool.Event} (orderly : s.Orderly)
    (own : e.isWorkerStep = true) (happens : s.pool.apply e = some pool) :
    Step s { s with pool } (s.pool.deeds e) := by
  obtain ⟨w, worker⟩ := Pool.Event.exists_worker own
  obtain ⟨before, after, step⟩ := Pool.workerStep_of_apply worker happens
  have recorded := Deeds.disposedBy_eq (s.pool.lost_not_mem own)
  have mem : before ∈ s.pool.workers := List.mem_of_getElem? step.was
  have inLife : s.phase ≠ .idle := fun idle => by
    rw [(orderly.idle idle).2] at mem
    cases mem
  have atWork : ¬ (s.phase = .closing ∨ s.phase = .stopped) := fun late =>
    step.alive (orderly.exited late before mem)
  have inRange : w < s.pool.workers.length := by
    obtain ⟨inRange, -⟩ := List.getElem?_eq_some_iff.1 step.was
    exact inRange
  have self : pool.workers[w]? = some after := by
    rw [step.workers, List.getElem?_set_self inRange]
  have other {v : Nat} (ne : v ≠ w) : pool.workers[v]? = s.pool.workers[v]? := by
    rw [step.workers, List.getElem?_set_ne ne.symm]
  refine
    { orderly :=
        { idle := fun idle => absurd idle inLife
          exited := fun late => absurd late atWork
          closing := orderly.closing
          stopped := fun stopped => absurd (.inr stopped) atWork
          honest := fun worker member => ?_ }
      queue := by rw [step.accepted, List.append_nil]; exact step.queue
      backend := step.backend
      custody := fun t => ?_
      begins := fun t => ?_
      outcomes := fun settled member => ?_
      accepting := fun some => absurd step.accepted some
      halting := fun may => ⟨may, step.unhalted⟩ }
  · rw [step.workers] at member
    rcases List.mem_or_eq_of_mem_set member with old | rfl
    · exact orderly.honest worker old
    · exact step.honest (orderly.honest before mem)
  · cases t with
    | worker v =>
      rw [← recorded]
      exact step.hands v
    | server =>
      obtain ⟨taken, -, disposed⟩ := step.others .server nofun
      rw [taken, ← recorded, disposed]
      exact List.append_nil _
  · by_cases own : t = .worker w
    · subst own
      simpa [unstarted, step.was, self] using step.begins
    · obtain ⟨taken, begun, -⟩ := step.others t own
      rw [taken, begun]
      cases t with
      | worker v => simp [unstarted, other fun eq => own (congrArg Taker.worker eq)]
      | server => simp [unstarted]
  · obtain ⟨taker, outcome⟩ := step.outcomes settled member
    have notClosed : settled.2.2 ≠ .error .closed := fun eq => by
      rw [eq] at outcome
      exact orderly.honest before mem outcome
    simp [notClosed, taker]

/-! ## Steps of the server -/

theorem eq_of_register {s next : Server τ} {name ownName : String} {task : τ}
    (done : s.register name ownName task = .ok next) :
    s.phase = .idle ∧ ownName = name ∧ next = { s with tasks := s.tasks ++ [(name, task)] } := by
  unfold register at done
  split at done
  · cases done
  next idle =>
    split at done
    · cases done
    next own =>
      cases done
      exact ⟨Decidable.not_not.1 idle, Decidable.not_not.1 own, rfl⟩

theorem eq_of_start {s next : Server τ} (done : s.start = .ok next) :
    s.phase = .idle ∧ next.phase = .running ∧ next.closing? = s.closing? ∧
      next.pool.pending = [] ∧ next.pool.backend = .empty ∧
      next.pool.workers = List.replicate s.settings.workers .parked := by
  unfold start at done
  split at done
  · cases done
  next idle =>
    split at done
    · cases done
    · cases done
      exact ⟨Decidable.not_not.1 idle, rfl, rfl, rfl, rfl, rfl⟩

theorem kept_of_start {s next : Server τ} (done : s.start = .ok next) :
    next.tasks = s.tasks ∧ next.settings = s.settings ∧ next.pool.registry = .ofList s.tasks ∧
      next.pool.strays = [] := by
  unfold start at done
  split at done
  · cases done
  · split at done
    · cases done
    · cases done
      exact ⟨rfl, rfl, rfl, rfl⟩

theorem eq_of_enqueue {s next : Server τ} {id : TaskId} {task : String} {params : Params}
    {now : Instant} (done : s.enqueue id task params now = .ok next) :
    s.phase = .running ∧
      next = { s with
        pool := { s.pool with
          pending := s.pool.pending ++
            [.create id task params s.settings.taskValidity now] } } := by
  unfold enqueue at done
  split at done
  · cases done
  next running =>
    split at done
    · cases done
      exact ⟨Decidable.not_not.1 running, rfl⟩
    · cases done

/-- A registration, a start or a submission, which may be refused. -/
def Event.isCall : Event τ → Bool
  | register _ _ _ | start | enqueue _ _ _ _ => true
  | _ => false

/-- The ways in which a server may go on. -/
inductive Moves (s : Server τ) : Event τ → Server τ → Prop
  | register (name : String) (task : τ) : s.phase = .idle →
    Moves s (.register name name task) { s with tasks := s.tasks ++ [(name, task)] }
  | start {next : Server τ} : s.start = .ok next → Moves s .start next
  | enqueue {id : TaskId} {task : String} {params : Params} {now : Instant} {next : Server τ} :
    s.enqueue id task params now = .ok next → Moves s (.enqueue id task params now) next
  | refuse {e : Event τ} : e.isCall = true → s.deeds e = [] → Moves s e s
  | forget (id : TaskId) : Moves s (.forget id) (s.forget id)
  | work {e : Pool.Event} {pool : Pool τ} : e.isWorkerStep = true → s.pool.apply e = some pool →
    Moves s (.work e) { s with pool }
  | cease (i : Nat) :
    Moves s (.cease i) { s with pool := { s.pool with strays := s.pool.strays.eraseIdx i } }
  | halt : s.phase = .running → Moves s .halt { s with phase := .stopping }
  | cancelWorkers : s.phase = .stopping →
    Moves s .cancelWorkers { s with pool := { s.pool with cancelled := true } }
  | closePool : s.phase = .stopping →
    Moves s .closePool { s with pool := { s.pool with closed := true } }
  | joinWorkers : s.phase = .stopping → s.pool.cancelled = true → s.pool.closed = true →
    s.pool.allExited = true → Moves s .joinWorkers { s with phase := .closing }
  | takePending {x : Submission} {rest : List Submission} :
    s.phase = .closing → s.closing? = none → s.pool.pending = x :: rest →
    Moves s .takePending { s with pool := { s.pool with pending := rest }, closing? := some x }
  | closePending {x : Submission} : s.closing? = some x →
    Moves s .closePending
      { s with
        pool := { s.pool with backend := s.pool.backend.set x.id (.error .closed) }
        closing? := none }
  | finish : s.phase = .closing → s.closing? = none → s.pool.pending = [] →
    Moves s .finish { s with phase := .stopped }

theorem moves_of_apply {s next : Server τ} {e : Event τ} (happens : s.apply e = some next) :
    s.Moves e next := by
  cases e with
  | register name ownName task =>
    rw [apply] at happens
    split at happens
    next registered =>
      cases happens
      obtain ⟨idle, rfl, rfl⟩ := eq_of_register registered
      exact .register ownName task idle
    · cases happens
      exact .refuse rfl rfl
  | start =>
    rw [apply] at happens
    split at happens
    next started =>
      cases happens
      exact .start started
    next refused =>
      cases happens
      exact .refuse rfl (by rw [deeds, refused])
  | enqueue id task params now =>
    rw [apply] at happens
    split at happens
    next sent =>
      cases happens
      exact .enqueue sent
    next refused =>
      cases happens
      exact .refuse rfl (by rw [deeds, refused])
  | forget id =>
    cases happens
    exact .forget id
  | work e =>
    rw [apply] at happens
    split at happens
    next own =>
      obtain ⟨pool, worked, rfl⟩ := Option.map_eq_some_iff.1 happens
      exact .work own worked
    · cases happens
  | cease i =>
    cases happens
    exact .cease i
  | halt =>
    rw [apply] at happens
    split at happens
    next running =>
      cases happens
      exact .halt running
    · cases happens
  | cancelWorkers =>
    rw [apply] at happens
    split at happens
    next stopping =>
      cases happens
      exact .cancelWorkers stopping
    · cases happens
  | closePool =>
    rw [apply] at happens
    split at happens
    next stopping =>
      cases happens
      exact .closePool stopping
    · cases happens
  | joinWorkers =>
    rw [apply] at happens
    split at happens
    next joined =>
      cases happens
      obtain ⟨stopping, cancelled, closed, exited⟩ := joined
      exact .joinWorkers stopping cancelled closed exited
    · cases happens
  | takePending =>
    rw [apply] at happens
    split at happens
    next closing free pending =>
      cases happens
      exact .takePending closing free pending
    · cases happens
  | closePending =>
    rw [apply] at happens
    split at happens
    next held =>
      cases happens
      exact .closePending held
    · cases happens
  | finish =>
    rw [apply] at happens
    split at happens
    next closing free pending =>
      cases happens
      exact .finish closing free pending
    · cases happens

/-- A server that starts has nothing in it. -/
theorem step_of_start {s next : Server τ} (orderly : s.Orderly) (started : s.start = .ok next) :
    Step s next [.opened] := by
  obtain ⟨idle, running, closing, pending, backend, workers⟩ := eq_of_start started
  obtain ⟨noPending, noWorkers⟩ := orderly.idle idle
  have noClosing : s.closing? = none := by
    cases held : s.closing? with
    | none => rfl
    | some x => simp [orderly.closing x held] at idle
  have parked {worker : Worker τ} (member : worker ∈ next.pool.workers) : worker = .parked := by
    rw [workers] at member
    exact List.eq_of_mem_replicate member
  have unheld (w : Nat) :
      next.pool.workers[w]?.bind Worker.held? = none ∧
        next.pool.workers[w]?.bind Worker.unstarted? = none := by
    cases at_ : next.pool.workers[w]? with
    | none => exact ⟨rfl, rfl⟩
    | some worker =>
      rw [parked (List.mem_of_getElem? at_)]
      exact ⟨rfl, rfl⟩
  exact
    { orderly :=
        { idle := fun idle => by simp [running] at idle
          exited := fun late => by simp [running] at late
          closing := fun x held => by simp [closing, noClosing] at held
          stopped := fun stopped => by simp [running] at stopped
          honest := fun worker member => by
            rw [parked member]
            nofun }
      queue := by simp [pending, noPending, Deeds.accepted, Deeds.takings]
      backend := backend
      custody := fun t => by
        rw [Deeds.takenBy, Deeds.settledBy]
        cases t with
        | worker w => simp [holds, noWorkers, (unheld w).1, Deeds.takings, Deeds.settlements]
        | server => simp [holds, closing, Deeds.takings, Deeds.settlements]
      begins := fun t => by
        rw [Deeds.begunBy]
        cases t with
        | worker w => simp [unstarted, (unheld w).2, Deeds.begun]
        | server => simp [unstarted, Deeds.begun]
      outcomes := fun _ mem => by cases mem
      accepting := absurd rfl
      halting := fun _ => ⟨.inl idle, by simp⟩ }

/-- An accepted submission goes to the end of the queue. -/
theorem step_of_enqueue {s next : Server τ} {id : TaskId} {task : String} {params : Params}
    {now : Instant} (orderly : s.Orderly) (sent : s.enqueue id task params now = .ok next) :
    Step s next [.accepted (.create id task params s.settings.taskValidity now)] := by
  obtain ⟨running, rfl⟩ := eq_of_enqueue sent
  refine .unmoved ?_ rfl rfl rfl rfl rfl rfl rfl (fun _ => ⟨.inr running, by simp⟩)
    fun may => ⟨may, by simp⟩
  exact
    { idle := fun idle => by simp [running] at idle
      exited := orderly.exited
      closing := orderly.closing
      stopped := fun stopped => by simp [running] at stopped
      honest := orderly.honest }

/-- A server that stops accepts nothing more. -/
theorem step_of_halt {s : Server τ} (orderly : s.Orderly) (running : s.phase = .running) :
    Step s { s with phase := .stopping } [.halted] := by
  refine .unmoved ?_ rfl rfl rfl (List.append_nil _).symm rfl rfl rfl (absurd rfl)
    fun may => by simp [mayAccept] at may
  exact
    { idle := fun idle => by cases idle
      exited := fun late => by simp at late
      closing := fun x held => by
        have closing := orderly.closing x held
        simp [running] at closing
      stopped := fun stopped => by cases stopped
      honest := orderly.honest }

/-- Once the workers have exited nothing is accepted, and the server closes what they left. -/
theorem step_of_join {s : Server τ} (orderly : s.Orderly) (exited : s.pool.allExited = true) :
    Step s { s with phase := .closing } [] := by
  refine .silent ?_ rfl rfl rfl rfl fun may => by simp [mayAccept] at may
  exact
    { idle := fun idle => by cases idle
      exited := fun _ worker member => by
        have gone := List.all_eq_true.1 exited worker member
        cases worker <;> simp_all [Worker.isExited]
      closing := fun _ _ => rfl
      stopped := fun stopped => by cases stopped
      honest := orderly.honest }

/-- The server stops with an empty queue and empty hands. -/
theorem step_of_finish {s : Server τ} (orderly : s.Orderly) (closing : s.phase = .closing)
    (free : s.closing? = none) (pending : s.pool.pending = []) :
    Step s { s with phase := .stopped } [] := by
  refine .silent ?_ rfl rfl rfl rfl fun may => by simp [mayAccept] at may
  exact
    { idle := fun idle => by cases idle
      exited := fun _ => orderly.exited (.inl closing)
      closing := fun x held => by simp [free] at held
      stopped := fun _ => pending
      honest := orderly.honest }

/-- What no worker took passes into the hands of the server. -/
theorem step_of_takePending {s : Server τ} {x : Submission} {rest : List Submission}
    (orderly : s.Orderly) (closing : s.phase = .closing) (free : s.closing? = none)
    (pending : s.pool.pending = x :: rest) :
    Step s { s with pool := { s.pool with pending := rest }, closing? := some x }
      [.taken .server x] where
  orderly :=
    { idle := fun idle => by simp [closing] at idle
      exited := orderly.exited
      closing := fun _ _ => closing
      stopped := fun stopped => by simp [closing] at stopped
      honest := orderly.honest }
  queue := by simp [pending, Deeds.accepted, Deeds.takings]
  backend := rfl
  custody t := by
    cases t <;> simp [holds, free, Deeds.takenBy, Deeds.takings, Deeds.settledBy, Deeds.settlements]
  begins t := by
    cases t <;> simp [unstarted, Deeds.begunBy, Deeds.begun, Deeds.takenBy, Deeds.takings]
  outcomes := fun _ mem => by cases mem
  accepting := absurd rfl
  halting := fun may => by simp [mayAccept, closing] at may

/-- What the server holds is closed. -/
theorem step_of_closePending {s : Server τ} {x : Submission} (orderly : s.Orderly)
    (held : s.closing? = some x) :
    Step s
      { s with
        pool := { s.pool with backend := s.pool.backend.set x.id (.error .closed) }
        closing? := none }
      [.settled .server x (.error .closed)] where
  orderly := { orderly with closing := fun _ eq => by cases eq }
  queue := by simp [Deeds.accepted, Deeds.takings]
  backend := rfl
  custody t := by
    cases t <;> simp [holds, held, Deeds.takenBy, Deeds.takings, Deeds.settledBy, Deeds.settlements]
  begins t := by
    cases t <;> simp [unstarted, Deeds.begunBy, Deeds.begun, Deeds.takenBy, Deeds.takings]
  outcomes settled mem := by
    rw [List.mem_singleton.1 mem]
    exact ⟨fun _ => rfl, fun _ => rfl⟩
  accepting := absurd rfl
  halting := fun may => by simp [mayAccept, orderly.closing x held] at may

/-- Every step of an orderly server changes what its deeds say. -/
theorem step_of_apply {s next : Server τ} {e : Event τ} (orderly : s.Orderly)
    (happens : s.apply e = some next) : Step s next (s.deeds e) := by
  cases moves_of_apply happens with
  | register | cease | cancelWorkers | closePool =>
    exact .silent { orderly with } rfl rfl rfl rfl id
  | start started =>
    have noted : s.deeds .start = [.opened] := by rw [deeds, started]
    rw [noted]
    exact step_of_start orderly started
  | @enqueue id task params now _ sent =>
    rw [deeds, sent]
    exact step_of_enqueue orderly sent
  | refuse _ noted =>
    rw [noted]
    exact .silent orderly rfl rfl rfl rfl id
  | forget =>
    exact .unmoved { orderly with } rfl rfl rfl (List.append_nil _).symm rfl rfl rfl (absurd rfl)
      fun may => ⟨may, by simp [deeds]⟩
  | work own worked => exact step_of_work orderly own worked
  | halt running => exact step_of_halt orderly running
  | joinWorkers _ _ _ exited => exact step_of_join orderly exited
  | @takePending x rest closing free pending =>
    have noted : s.deeds .takePending = [.taken .server x] := by simp [deeds, pending]
    rw [noted]
    exact step_of_takePending orderly closing free pending
  | @closePending x held =>
    have noted : s.deeds .closePending = [.settled .server x (.error .closed)] := by
      simp [deeds, held]
    rw [noted]
    exact step_of_closePending orderly held
  | finish closing free pending => exact step_of_finish orderly closing free pending

/-! ## Steps beside submissions -/

/-- The workers are gone. -/
def Deserted (s : Server τ) : Prop := s.phase = .closing ∨ s.phase = .stopped

/-- What a step changes beside the submissions: the tasks, the workers, or neither. -/
inductive Passes (s : Server τ) : Event τ → Server τ → Prop
  | registered (name : String) (task : τ) (idle : s.phase = .idle) :
    Passes s (.register name name task) { s with tasks := s.tasks ++ [(name, task)] }
  | started {next : Server τ} (idle : s.phase = .idle) (tasks : next.tasks = s.tasks)
    (settings : next.settings = s.settings) (registry : next.pool.registry = .ofList s.tasks)
    (workers : next.pool.workers = List.replicate s.settings.workers .parked) : Passes s .start next
  | worked {e : Pool.Event} {pool : Pool τ} (own : e.isWorkerStep = true)
    (happens : s.pool.apply e = some pool) : Passes s (.work e) { s with pool }
  | kept {e : Event τ} {next : Server τ} (still : ∀ work, e ≠ .work work)
    (tasks : next.tasks = s.tasks) (settings : next.settings = s.settings)
    (registry : next.pool.registry = s.pool.registry)
    (workers : next.pool.workers = s.pool.workers) (deserted : s.Deserted → next.Deserted) :
    Passes s e next

theorem not_deserted_of_phase {s : Server τ} (early : s.phase = .idle ∨ s.phase = .running) :
    ¬ s.Deserted := by
  rintro (closing | stopped)
  · simp [closing] at early
  · simp [stopped] at early

theorem passes_of_apply {s next : Server τ} {e : Event τ} (happens : s.apply e = some next) :
    Passes s e next := by
  cases moves_of_apply happens with
  | register name task idle => exact .registered name task idle
  | start started =>
    obtain ⟨idle, -, -, -, -, workers⟩ := eq_of_start started
    obtain ⟨tasks, settings, registry, -⟩ := kept_of_start started
    exact .started idle tasks settings registry workers
  | enqueue sent =>
    obtain ⟨-, rfl⟩ := eq_of_enqueue sent
    exact .kept (fun _ => nofun) rfl rfl rfl rfl id
  | refuse call =>
    refine .kept (fun work same => ?_) rfl rfl rfl rfl id
    rw [same] at call
    cases call
  | work own worked => exact .worked own worked
  | halt running =>
    have busy := not_deserted_of_phase (.inr running)
    exact .kept (fun _ => nofun) rfl rfl rfl rfl fun gone => absurd gone busy
  | joinWorkers => exact .kept (fun _ => nofun) rfl rfl rfl rfl fun _ => .inl rfl
  | finish => exact .kept (fun _ => nofun) rfl rfl rfl rfl fun _ => .inr rfl
  | forget | cease | cancelWorkers | closePool | takePending | closePending =>
    exact .kept (fun _ => nofun) rfl rfl rfl rfl id

end JobNode.Server
