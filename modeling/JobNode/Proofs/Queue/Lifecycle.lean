import JobNode.Proofs.Queue.Custody

/-!
# The life of a queue server

Whoever calls a server sees its answers, when it stops, which tasks are run and what becomes of
submissions.  How each call is answered follows from what was seen before it: tasks are registered
until a start is accepted, and submissions are accepted from then on until the stop.

* `Server.record`: what is seen of a run.
* `Server.Lawful`: how calls are answered, and tasks run, in the light of what was seen before.
* `Server.Served.step`: a server agrees with what was seen of it, and answers lawfully.
* `Server.answers_over_life`: every run.
-/

namespace JobNode

/-- What is seen of a server. -/
inductive Occurrence (τ : Type) where
  | registered (name ownName : String) (task : τ) (answer : Except QueueError Unit)
  | started (answer : Except QueueError Unit)
  | submitted (name : String) (answer : Except QueueError Submission)
  /-- The server stops accepting. -/
  | halted
  /-- The body of a task is started. -/
  | ran (x : Submission) (task : τ)
  | ended (x : Submission) (outcome : Outcome)

namespace Occurrence

variable {τ : Type}

/-- It is an accepted start. -/
def isStart : Occurrence τ → Bool
  | started (.ok ()) => true
  | _ => false

/-- It is the stop. -/
def isHalt : Occurrence τ → Bool
  | halted => true
  | _ => false

/-- The task that was registered. -/
def registration? : Occurrence τ → Option (String × τ)
  | registered name _ task (.ok ()) => some (name, task)
  | _ => none

/-- A call was refused. -/
def isRefusal : Occurrence τ → Bool
  | registered _ _ _ (.error _) | started (.error _) | submitted _ (.error _) => true
  | _ => false

/-- It changes nothing about how calls are answered. -/
def IsQuiet (o : Occurrence τ) : Prop :=
  o.isStart = false ∧ o.isHalt = false ∧ o.registration? = none

theorem isQuiet_of_isRefusal {o : Occurrence τ} (refused : o.isRefusal) : o.IsQuiet := by
  cases o with
  | registered name ownName task answer =>
    cases answer with
    | ok done => cases refused
    | error e => exact ⟨rfl, rfl, rfl⟩
  | started answer =>
    cases answer with
    | ok done => cases refused
    | error e => exact ⟨rfl, rfl, rfl⟩
  | submitted name answer => exact ⟨rfl, rfl, rfl⟩
  | halted | ran | ended => cases refused

end Occurrence

namespace Server

open Occurrence

variable {τ : Type}

/-- What is seen of a step. -/
def noted (s : Server τ) : Event τ → List (Occurrence τ)
  | .register name ownName task =>
    [.registered name ownName task ((s.register name ownName task).map fun _ => ())]
  | .start => [.started (s.start.map fun _ => ())]
  | .enqueue id task params now =>
    [.submitted task ((s.enqueue id task params now).map fun _ =>
      .create id task params s.settings.taskValidity now)]
  | .halt => [.halted]
  | .work (.begin w now) =>
    match s.pool.workers[w]? with
    | some (.counted x) =>
      match x.start s.pool.registry now with
      | .run task _ => [.ran x task]
      | .settled _ => []
    | _ => []
  | .work (.store w) =>
    match s.pool.workers[w]? with
    | some (.storing x outcome) => [.ended x outcome]
    | _ => []
  | .closePending => s.closing?.toList.map fun x => .ended x (.error .closed)
  | _ => []

/-- What is seen of steps. -/
def record (s : Server τ) (events : List (Event τ)) : List (Occurrence τ) :=
  Run.history apply noted s events

/-! ## What was seen before -/

/-- A start was accepted. -/
def isStarted (h : List (Occurrence τ)) : Bool := h.any isStart

/-- A start was accepted, and the server has not stopped since. -/
def isUp (h : List (Occurrence τ)) : Bool := isStarted h && !h.any isHalt

/-- The tasks that were registered, the latest last. -/
def registrations (h : List (Occurrence τ)) : List (String × τ) := h.filterMap registration?

/-- The last task that was registered under a name. -/
def lastTask? (h : List (Occurrence τ)) (name : String) : Option τ :=
  ((registrations h).filter (·.1 = name)).getLast?.map (·.2)

/-- How calls are answered, and what is run, in the light of what was seen before. -/
def Lawful (settings : QueueSettings) (past : List (Occurrence τ)) : Occurrence τ → Prop
  | .registered name ownName _ answer =>
    answer = if isStarted past then .error .alreadyStarted
      else if ownName ≠ name then .error (wrongName ownName name) else .ok ()
  | .started answer =>
    answer = if isStarted past then .error .alreadyStarted else settings.check
  | .submitted name answer =>
    if isUp past then
      if (lastTask? past name).isSome then ∃ x, answer = .ok x ∧ x.task = name
      else answer = .error (.unknownTask name)
    else answer = .error .notInitialised
  | .halted => isUp past
  | .ran x task => .submitted x.task (.ok x) ∈ past ∧ lastTask? past x.task = some task
  | .ended x outcome =>
    .submitted x.task (.ok x) ∈ past ∧ ∀ name, outcome ≠ .error (.unknownTask name)

variable {h k past : List (Occurrence τ)} {o : Occurrence τ} {settings : QueueSettings}

theorem isStarted_append : isStarted (h ++ k) = (isStarted h || isStarted k) := List.any_append

theorem registrations_append : registrations (h ++ k) = registrations h ++ registrations k :=
  List.filterMap_append

theorem isStarted_quiet (quiet : ∀ o ∈ k, o.IsQuiet) : isStarted (h ++ k) = isStarted h := by
  have none : isStarted k = false := List.any_eq_false.2 fun o mem => by simp [(quiet o mem).1]
  rw [isStarted_append, none, Bool.or_false]

theorem isUp_quiet (quiet : ∀ o ∈ k, o.IsQuiet) : isUp (h ++ k) = isUp h := by
  have none : k.any isHalt = false := List.any_eq_false.2 fun o mem => by simp [(quiet o mem).2.1]
  rw [isUp, isStarted_quiet quiet, List.any_append, none, Bool.or_false, isUp]

theorem registrations_quiet (quiet : ∀ o ∈ k, o.IsQuiet) :
    registrations (h ++ k) = registrations h := by
  have none : registrations k = [] := List.filterMap_eq_nil_iff.2 fun o mem => (quiet o mem).2.2
  rw [registrations_append, none, List.append_nil]

theorem lookupEntry_eq_head? {α : Type} (name : String) (pairs : List (String × α)) :
    Dict.lookupEntry name pairs = (pairs.filter (·.1 = name)).head?.map (·.2) := by
  induction pairs with
  | nil => rfl
  | cons first rest ih =>
    obtain ⟨key, value⟩ := first
    by_cases own : key = name <;> simp [Dict.lookupEntry, own, ih]

/-- The task that a submission finds is the last one that was registered. -/
theorem get?_registrations (h : List (Occurrence τ)) (name : String) :
    (Dict.ofList (registrations h)).get? name = lastTask? h name := by
  rw [Dict.get?_ofList, lookupEntry_eq_head?, List.filter_reverse, List.head?_reverse, lastTask?]

theorem isSome_lastTask?_append {name : String} (known : (lastTask? h name).isSome) :
    (lastTask? (h ++ k) name).isSome := by
  rw [lastTask?, Option.isSome_map, List.getLast?_isSome] at known ⊢
  rw [registrations_append, List.filter_append]
  exact fun none => known (List.append_eq_nil_iff.1 none).1

/-- There is one accepted start, and nothing is registered after it. -/
theorem once_started (lawful : Run.Always (Lawful settings) h) {before later : List (Occurrence τ)}
    (split : h = before ++ .started (.ok ()) :: later) :
    isStarted before = false ∧ isStarted later = false ∧ registrations later = [] := by
  have first : isStarted before = false := by
    have answer : Except.ok () = _ := lawful before _ later split
    cases started : isStarted before with
    | false => rfl
    | true =>
      rw [started, if_pos rfl] at answer
      cases answer
  have quiet (o : Occurrence τ) (mem : o ∈ later) : o.isStart = false ∧ o.registration? = none := by
    obtain ⟨between, rest, rfl⟩ := List.append_of_mem mem
    have answered := lawful (before ++ .started (.ok ()) :: between) o rest
      (by rw [split, List.append_assoc]; rfl)
    have started : isStarted (before ++ .started (.ok ()) :: between) = true := by
      rw [isStarted_append, first]
      rfl
    cases o with
    | registered name ownName task answer =>
      rw [Lawful, started, if_pos rfl] at answered
      rw [answered]
      exact ⟨rfl, rfl⟩
    | started answer =>
      rw [Lawful, started, if_pos rfl] at answered
      rw [answered]
      exact ⟨rfl, rfl⟩
    | submitted | halted | ran | ended => exact ⟨rfl, rfl⟩
  refine ⟨first, List.any_eq_false.2 fun o mem => by simp [(quiet o mem).1], ?_⟩
  exact List.filterMap_eq_nil_iff.2 fun o mem => (quiet o mem).2

/-- A server that has not started has not stopped. -/
theorem not_halted (lawful : Run.Always (Lawful settings) h) (idle : isStarted h = false) :
    h.any isHalt = false := by
  refine List.any_eq_false.2 fun o mem halts => ?_
  obtain ⟨before, later, rfl⟩ := List.append_of_mem mem
  have up := lawful before o later rfl
  cases o with
  | halted =>
    rw [isStarted_append, Bool.or_eq_false_iff] at idle
    rw [Lawful, isUp, idle.1] at up
    cases up
  | registered | started | submitted | ran | ended => cases halts

/-! ## Submissions under way -/

/-- A submission was accepted, and its task is registered. -/
def Accepted (h : List (Occurrence τ)) (x : Submission) : Prop :=
  .submitted x.task (.ok x) ∈ h ∧ (lastTask? h x.task).isSome

theorem Accepted.mono {x : Submission} (accepted : Accepted h x) : Accepted (h ++ k) x :=
  ⟨List.mem_append_left _ accepted.1, isSome_lastTask?_append accepted.2⟩

end Server

/-- With a registered task nothing is unknown. -/
theorem Submission.Earns.ne_unknown {τ : Type} {registry : Dict τ} {x : Submission}
    {outcome : Outcome} (earns : x.Earns registry outcome)
    (known : (registry.get? x.task).isSome) (name : String) :
    outcome ≠ .error (.unknownTask name) := by
  cases earns with
  | settled now settled =>
    obtain ⟨task, found⟩ := Option.isSome_iff_exists.1 known
    rw [start, found] at settled
    simp only at settled
    split at settled
    · cases settled
      nofun
    · cases settled
  | ended last => cases last <;> nofun
  | overran => nofun

namespace Pool

variable {τ : Type} {p next : Pool τ} {fine : Submission → Prop}

/-- Whatever is in the queue or in the hands of a worker is fine, and no worker is about to record
that a task is unknown. -/
structure Sound (p : Pool τ) (fine : Submission → Prop) : Prop where
  pending : ∀ x ∈ p.pending, fine x
  held : ∀ worker ∈ p.workers, ∀ x, worker.held? = some x → fine x
  known : ∀ worker ∈ p.workers, ∀ outcome, worker.outcome? = some outcome →
    ∀ name, outcome ≠ .error (.unknownTask name)

theorem Sound.mono {more : Submission → Prop} (sound : p.Sound fine)
    (grows : ∀ x, fine x → more x) : p.Sound more :=
  ⟨fun x mem => grows x (sound.pending x mem),
    fun worker mem x held => grows x (sound.held worker mem x held), sound.known⟩

/-- A worker passes on what it has, or takes what is in the queue. -/
theorem Sound.work {h : Deeds} {w : Nat} {before after : Worker τ} (sound : p.Sound fine)
    (known : ∀ x, fine x → (p.registry.get? x.task).isSome)
    (step : WorkerStep p next h w before after) : next.Sound fine := by
  have mem : before ∈ p.workers := List.mem_of_getElem? step.was
  have taken (x : Submission) (took : x ∈ h.takenBy (.worker w)) : fine x := by
    obtain ⟨taking, found, rfl⟩ := List.mem_map.1 took
    refine sound.pending _ ?_
    rw [step.queue]
    exact List.mem_append_left _ (List.mem_map_of_mem (List.mem_filter.1 found).1)
  refine ⟨fun x waits => sound.pending x ?_, fun worker there => ?_, fun worker there => ?_⟩
  · rw [step.queue]
    exact List.mem_append_right _ waits
  · rw [step.workers] at there
    rcases List.mem_or_eq_of_mem_set there with old | rfl
    · exact sound.held worker old
    · intro x held
      have passed : x ∈ before.held?.toList ++ h.takenBy (.worker w) := by
        rw [step.custody, held]
        exact List.mem_append_right _ (.head _)
      rcases List.mem_append.1 passed with had | took
      · exact sound.held before mem x (Option.mem_toList.1 had)
      · exact taken x took
  · rw [step.workers] at there
    rcases List.mem_or_eq_of_mem_set there with old | rfl
    · exact sound.known worker old
    · intro outcome comes
      rcases step.earned outcome comes with had | ⟨x, held, earns⟩
      · exact sound.known before mem outcome had
      · exact earns.ne_unknown (known x (sound.held before mem x held))

end Pool

namespace Server

open Occurrence

variable {τ : Type} {h k past : List (Occurrence τ)} {o : Occurrence τ} {settings : QueueSettings}
  {s next : Server τ} {e : Event τ}

/-! ## Steps -/

/-- A server agrees with what was seen of it, and every call was answered lawfully. -/
structure Served (settings : QueueSettings) (s : Server τ) (h : List (Occurrence τ)) : Prop where
  configured : s.settings = settings
  orderly : s.Orderly
  idle : s.phase = .idle ↔ isStarted h = false
  up : s.phase = .running ↔ isUp h = true
  tasks : s.tasks = registrations h
  registry : s.phase ≠ .idle → s.pool.registry = .ofList s.tasks
  sound : s.pool.Sound (Accepted h)
  closing : ∀ x, s.closing? = some x → Accepted h x
  lawful : Run.Always (Lawful settings) h

theorem served_create (settings : QueueSettings) : Served settings (create settings : Server τ) [] where
  configured := rfl
  orderly := orderly_create settings
  idle := ⟨fun _ => rfl, fun _ => rfl⟩
  up := ⟨nofun, nofun⟩
  tasks := rfl
  registry started := absurd rfl started
  sound := ⟨fun _ mem => (nomatch mem), fun _ mem => (nomatch mem), fun _ mem => (nomatch mem)⟩
  closing _ eq := nomatch eq
  lawful := Run.always_nil

/-- Two servers answer calls alike. -/
structure Alike (s next : Server τ) : Prop where
  settings : next.settings = s.settings
  tasks : next.tasks = s.tasks
  registry : next.pool.registry = s.pool.registry
  idle : next.phase = .idle ↔ s.phase = .idle
  running : next.phase = .running ↔ s.phase = .running

theorem Alike.refl (s : Server τ) : Alike s s := ⟨rfl, rfl, rfl, .rfl, .rfl⟩

namespace Served

/-- A step after which calls are answered as before, with nothing seen but what changes nothing. -/
theorem quiet (before : Served settings s h) (alike : Alike s next) (orderly : next.Orderly)
    (quiet : ∀ o ∈ k, o.IsQuiet) (sound : next.pool.Sound (Accepted (h ++ k)))
    (closing : ∀ x, next.closing? = some x → Accepted (h ++ k) x)
    (lawful : Run.Always (Lawful settings) (h ++ k)) : Served settings next (h ++ k) where
  configured := alike.settings.trans before.configured
  orderly := orderly
  idle := by rw [alike.idle, before.idle, isStarted_quiet quiet]
  up := by rw [alike.running, before.up, isUp_quiet quiet]
  tasks := by rw [alike.tasks, before.tasks, registrations_quiet quiet]
  registry started := by
    rw [alike.registry, alike.tasks]
    exact before.registry fun idle => started (alike.idle.2 idle)
  sound := sound
  closing := closing
  lawful := lawful

/-- A step that nobody sees. -/
theorem unseen (before : Served settings s h) (alike : Alike s next) (orderly : next.Orderly)
    (sound : next.pool.Sound (Accepted h)) (closing : ∀ x, next.closing? = some x → Accepted h x) :
    Served settings next (h ++ []) :=
  before.quiet alike orderly (fun _ mem => nomatch mem) (sound.mono fun _ => Accepted.mono)
    (fun x held => (closing x held).mono) (by rw [List.append_nil]; exact before.lawful)

/-- A refused call leaves the server as it is. -/
theorem refused (before : Served settings s h) (refusal : o.isRefusal)
    (lawful : Lawful settings h o) : Served settings s (h ++ [o]) := by
  refine before.quiet (.refl s) before.orderly (fun o' mem => ?_)
    (before.sound.mono fun _ => Accepted.mono) (fun x held => (before.closing x held).mono)
    (before.lawful.concat lawful)
  rw [List.mem_singleton.1 mem]
  exact isQuiet_of_isRefusal refusal

/-- A submission finds the last task that was registered. -/
theorem get?_eq (before : Served settings s h) (started : s.phase ≠ .idle) (name : String) :
    s.pool.registry.get? name = lastTask? h name := by
  rw [before.registry started, before.tasks, get?_registrations]

theorem isStarted_of_started (before : Served settings s h) (started : s.phase ≠ .idle) :
    isStarted h = true := by
  rw [ne_eq, before.idle] at started
  simpa using started

/-! ### Answers -/

theorem lawful_register (before : Served settings s h) (name ownName : String) (task : τ) :
    Lawful settings h
      (.registered name ownName task ((s.register name ownName task).map fun _ => ())) := by
  rw [Lawful, register]
  by_cases idle : s.phase = .idle
  · rw [if_neg (not_not_intro idle), before.idle.1 idle, if_neg Bool.false_ne_true]
    split <;> rfl
  · rw [if_pos idle, before.isStarted_of_started idle, if_pos rfl]
    rfl

theorem lawful_start (before : Served settings s h) :
    Lawful settings h (.started (s.start.map fun _ => ())) := by
  rw [Lawful, start]
  by_cases idle : s.phase = .idle
  · rw [if_neg (not_not_intro idle), before.idle.1 idle, if_neg Bool.false_ne_true,
      before.configured]
    cases settings.check <;> rfl
  · rw [if_pos idle, before.isStarted_of_started idle, if_pos rfl]
    rfl

theorem lawful_enqueue (before : Served settings s h) (id : TaskId) (task : String)
    (params : Params) (now : Instant) :
    Lawful settings h (.submitted task ((s.enqueue id task params now).map fun _ =>
      .create id task params s.settings.taskValidity now)) := by
  rw [Lawful, enqueue]
  by_cases running : s.phase = .running
  · have started : s.phase ≠ .idle := by simp [running]
    rw [if_pos (before.up.1 running), if_neg (not_not_intro running), Dict.contains,
      before.get?_eq started]
    split
    · exact ⟨_, rfl, rfl⟩
    · rfl
  · rw [if_neg (mt before.up.2 running), if_pos running]
    rfl

/-- What a worker is seen to do is lawful. -/
theorem lawful_work (before : Served settings s h) (started : s.phase ≠ .idle) (e : Pool.Event) :
    s.noted (.work e) = [] ∨
      ∃ o, s.noted (.work e) = [o] ∧ o.IsQuiet ∧ Lawful settings h o := by
  cases e with
  | begin w now =>
    rw [noted]
    split
    next x was =>
      split
      next task limit begun =>
        have mem := List.mem_of_getElem? was
        obtain ⟨accepted, -⟩ := before.sound.held _ mem x rfl
        refine .inr ⟨_, rfl, ⟨rfl, rfl, rfl⟩, accepted, ?_⟩
        rw [← before.get?_eq started]
        unfold Submission.start at begun
        split at begun
        · cases begun
        next found =>
          split at begun
          · cases begun
          · cases begun
            exact found
      · exact .inl rfl
    · exact .inl rfl
  | store w =>
    rw [noted]
    split
    next x outcome was =>
      have mem := List.mem_of_getElem? was
      obtain ⟨accepted, -⟩ := before.sound.held _ mem x rfl
      exact .inr ⟨_, rfl, ⟨rfl, rfl, rfl⟩, accepted, before.sound.known _ mem outcome rfl⟩
    · exact .inl rfl
  | _ => exact .inl rfl

/-! ### Steps, one kind of call after the other -/

theorem step_of_register (before : Served settings s h) {name ownName : String} {task : τ}
    (happens : s.apply (.register name ownName task) = some next) :
    Served settings next (h ++ s.noted (.register name ownName task)) := by
  have lawful := before.lawful_register name ownName task
  rw [noted]
  rw [apply] at happens
  cases done : s.register name ownName task with
  | error refusal =>
    rw [done] at happens lawful
    cases happens
    exact before.refused rfl lawful
  | ok accepting =>
    rw [done] at happens lawful
    cases happens
    obtain ⟨idle, -, rfl⟩ := eq_of_register done
    change Served settings _ (h ++ [.registered name ownName task (.ok ())])
    have still : isStarted (h ++ [.registered name ownName task (.ok ())]) = isStarted h := by
      rw [isStarted_append]
      exact Bool.or_false _
    exact
      { configured := before.configured
        orderly := { before.orderly with }
        idle := by
          rw [before.idle]
          exact Eq.congr_left still.symm
        up := by
          refine ⟨fun running => ?_, fun up => ?_⟩
          · simp [idle] at running
          · have none := before.idle.1 idle
            rw [← still] at none
            rw [isUp, none] at up
            cases up
        tasks := by
          rw [registrations_append, ← before.tasks]
          rfl
        registry := fun started => absurd idle started
        sound := before.sound.mono fun _ => Accepted.mono
        closing := fun x held => (before.closing x held).mono
        lawful := before.lawful.concat lawful }

theorem step_of_start (before : Served settings s h) (happens : s.apply .start = some next) :
    Served settings next (h ++ s.noted .start) := by
  have lawful := before.lawful_start
  have orderly := (step_of_apply before.orderly happens).orderly
  rw [noted]
  rw [apply] at happens
  cases done : s.start with
  | error refusal =>
    rw [done] at happens lawful
    cases happens
    exact before.refused rfl lawful
  | ok opened =>
    rw [done] at happens lawful
    cases happens
    obtain ⟨idle, running, closing, pending, -, workers⟩ := eq_of_start done
    obtain ⟨tasks, configured, registry, -⟩ := kept_of_start done
    change Served settings next (h ++ [.started (.ok ())])
    have now : isStarted (h ++ [.started (.ok ())]) = true := by
      rw [isStarted_append]
      exact Bool.or_true _
    have unhalted : (h ++ [Occurrence.started (.ok ())]).any isHalt = false := by
      rw [List.any_append, not_halted before.lawful (before.idle.1 idle)]
      rfl
    exact
      { configured := configured.trans before.configured
        orderly := orderly
        idle := by
          refine ⟨fun idle => ?_, fun none => ?_⟩
          · simp [running] at idle
          · rw [now] at none
            cases none
        up := by
          refine ⟨fun _ => ?_, fun _ => running⟩
          rw [isUp, now, unhalted]
          rfl
        tasks := by
          rw [tasks, before.tasks, registrations_append]
          exact (List.append_nil _).symm
        registry := fun _ => by rw [registry, tasks]
        sound :=
          { pending := fun x mem => by rw [pending] at mem; cases mem
            held := fun worker mem x held => by
              rw [workers] at mem
              rw [List.eq_of_mem_replicate mem] at held
              cases held
            known := fun worker mem outcome comes => by
              rw [workers] at mem
              rw [List.eq_of_mem_replicate mem] at comes
              cases comes }
        closing := fun x held => by
          rw [closing] at held
          exact (before.closing x held).mono
        lawful := before.lawful.concat lawful }

theorem step_of_enqueue (before : Served settings s h) {id : TaskId} {task : String}
    {params : Params} {now : Instant} (happens : s.apply (.enqueue id task params now) = some next) :
    Served settings next (h ++ s.noted (.enqueue id task params now)) := by
  have lawful := before.lawful_enqueue id task params now
  have orderly := (step_of_apply before.orderly happens).orderly
  rw [noted]
  rw [apply] at happens
  cases done : s.enqueue id task params now with
  | error refusal =>
    rw [done] at happens lawful
    cases happens
    exact before.refused rfl lawful
  | ok accepting =>
    rw [done] at happens lawful
    cases happens
    obtain ⟨running, rfl⟩ := eq_of_enqueue done
    have registered : (lastTask? h task).isSome := by
      rw [Lawful, if_pos (before.up.1 running)] at lawful
      split at lawful
      · assumption
      · cases lawful
    refine before.quiet ⟨rfl, rfl, rfl, .rfl, .rfl⟩ orderly (fun o mem => ?_) ?_
      (fun x held => (before.closing x held).mono) (before.lawful.concat lawful)
    · rw [List.mem_singleton.1 mem]
      exact ⟨rfl, rfl, rfl⟩
    · refine ⟨fun x waits => ?_, fun worker there x held =>
        (before.sound.held worker there x held).mono, before.sound.known⟩
      rcases List.mem_append.1 waits with old | new
      · exact (before.sound.pending x old).mono
      · rw [List.mem_singleton.1 new]
        exact ⟨List.mem_append_right _ (.head _), isSome_lastTask?_append registered⟩

theorem step_of_work (before : Served settings s h) {e : Pool.Event}
    (happens : s.apply (.work e) = some next) :
    Served settings next (h ++ s.noted (.work e)) := by
  have orderly := (step_of_apply before.orderly happens).orderly
  rw [apply] at happens
  split at happens
  next own =>
    obtain ⟨pool, worked, rfl⟩ := Option.map_eq_some_iff.1 happens
    obtain ⟨w, worker⟩ := Pool.Event.exists_worker own
    obtain ⟨was, after, step⟩ := Pool.workerStep_of_apply worker worked
    have started : s.phase ≠ .idle := by
      intro idle
      have mem := List.mem_of_getElem? step.was
      rw [(before.orderly.idle idle).2] at mem
      cases mem
    have known (x : Submission) (accepted : Accepted h x) :
        (s.pool.registry.get? x.task).isSome := by
      rw [before.get?_eq started]
      exact accepted.2
    have sound := before.sound.work known step
    have alike : Alike s { s with pool } := ⟨rfl, rfl, step.registry, .rfl, .rfl⟩
    rcases before.lawful_work started e with none | ⟨o, one, quiet, lawful⟩
    · rw [none]
      exact before.unseen alike orderly sound before.closing
    · rw [one]
      refine before.quiet alike orderly (fun o' mem => ?_) (sound.mono fun _ => Accepted.mono)
        (fun x held => (before.closing x held).mono) (before.lawful.concat lawful)
      rw [List.mem_singleton.1 mem]
      exact quiet
  · cases happens

theorem step_of_halt (before : Served settings s h) (happens : s.apply .halt = some next) :
    Served settings next (h ++ s.noted .halt) := by
  have orderly := (step_of_apply before.orderly happens).orderly
  rw [apply] at happens
  split at happens
  next running =>
    cases happens
    have started : s.phase ≠ .idle := by simp [running]
    have still : isStarted (h ++ [.halted]) = true := by
      rw [isStarted_append, before.isStarted_of_started started]
      rfl
    have down : isUp (h ++ [.halted]) = false := by
      have seen : (h ++ [Occurrence.halted]).any isHalt = true := by
        rw [List.any_append]
        exact Bool.or_true _
      rw [isUp, seen]
      exact Bool.and_false _
    exact
      { configured := before.configured
        orderly := orderly
        idle := by
          refine ⟨fun idle => ?_, fun none => ?_⟩
          · cases idle
          · rw [noted, still] at none
            cases none
        up := by
          refine ⟨fun running => ?_, fun up => ?_⟩
          · cases running
          · rw [noted, down] at up
            cases up
        tasks := by
          rw [registrations_append, ← before.tasks]
          exact (List.append_nil _).symm
        registry := fun _ => before.registry started
        sound := before.sound.mono fun _ => Accepted.mono
        closing := fun x held => (before.closing x held).mono
        lawful := before.lawful.concat (before.up.1 running) }
  · cases happens

/-- The server keeps what it says lawful, whatever happens next. -/
theorem step (before : Served settings s h) (happens : s.apply e = some next) :
    Served settings next (h ++ s.noted e) := by
  have orderly := (step_of_apply before.orderly happens).orderly
  cases e with
  | register name ownName task => exact before.step_of_register happens
  | start => exact before.step_of_start happens
  | enqueue id task params now => exact before.step_of_enqueue happens
  | work e => exact before.step_of_work happens
  | halt => exact before.step_of_halt happens
  | forget | cease | cancelWorkers | closePool =>
    cases moves_of_apply happens with
    | refuse call => cases call
    | _ =>
      exact before.unseen ⟨rfl, rfl, rfl, .rfl, .rfl⟩ orderly { before.sound with } before.closing
  | joinWorkers =>
    cases moves_of_apply happens with
    | refuse call => cases call
    | joinWorkers stopping =>
      have alike : Alike s { s with phase := .closing } :=
        ⟨rfl, rfl, rfl, by simp [stopping], by simp [stopping]⟩
      exact before.unseen alike orderly before.sound before.closing
  | takePending =>
    cases moves_of_apply happens with
    | refuse call => cases call
    | @takePending x rest closing free pending =>
      refine before.unseen ⟨rfl, rfl, rfl, .rfl, .rfl⟩ orderly
        ⟨fun y waits => ?_, before.sound.held, before.sound.known⟩ fun y held => ?_
      · refine before.sound.pending y ?_
        rw [pending]
        exact .tail _ waits
      · cases held
        refine before.sound.pending x ?_
        rw [pending]
        exact .head _
  | closePending =>
    cases moves_of_apply happens with
    | refuse call => cases call
    | @closePending x held =>
      have accepted := before.closing x held
      rw [noted, held]
      refine before.quiet ⟨rfl, rfl, rfl, .rfl, .rfl⟩ orderly (fun o mem => ?_)
        ⟨fun x waits => (before.sound.pending x waits).mono, fun worker there x held =>
          (before.sound.held worker there x held).mono, before.sound.known⟩
        (fun y eq => ?_) (before.lawful.concat ⟨accepted.1, fun name eq => ?_⟩)
      · rw [List.mem_singleton.1 mem]
        exact ⟨rfl, rfl, rfl⟩
      · cases eq
      · cases eq
  | finish =>
    cases moves_of_apply happens with
    | refuse call => cases call
    | finish closing =>
      have alike : Alike s { s with phase := .stopped } :=
        ⟨rfl, rfl, rfl, by simp [closing], by simp [closing]⟩
      exact before.unseen alike orderly before.sound before.closing

end Served

/-! ## Runs -/

theorem served_of_run {events : List (Event τ)}
    (run : (create settings : Server τ).run? events = some s) :
    Served settings s ((create settings : Server τ).record events) :=
  Run.history_induction (fun before happens => before.step happens) (served_create settings) run

/-- A refused call leaves the server as it is. -/
theorem apply_of_refusal (seen : o ∈ s.noted e) (refused : o.isRefusal) : s.apply e = some s := by
  cases e with
  | register name ownName task =>
    rw [noted, List.mem_singleton] at seen
    rw [apply]
    cases done : s.register name ownName task with
    | error refusal => rfl
    | ok next =>
      rw [seen, done] at refused
      cases refused
  | start =>
    rw [noted, List.mem_singleton] at seen
    rw [apply]
    cases done : s.start with
    | error refusal => rfl
    | ok next =>
      rw [seen, done] at refused
      cases refused
  | enqueue id task params now =>
    rw [noted, List.mem_singleton] at seen
    rw [apply]
    cases done : s.enqueue id task params now with
    | error refusal => rfl
    | ok next =>
      rw [seen, done] at refused
      cases refused
  | halt =>
    rw [noted, List.mem_singleton] at seen
    rw [seen] at refused
    cases refused
  | closePending =>
    obtain ⟨x, -, rfl⟩ := List.mem_map.1 seen
    cases refused
  | work e =>
    cases e with
    | begin w now =>
      rw [noted] at seen
      split at seen
      · split at seen
        · rw [List.mem_singleton.1 seen] at refused
          cases refused
        · cases seen
      · cases seen
    | store w =>
      rw [noted] at seen
      split at seen
      · rw [List.mem_singleton.1 seen] at refused
        cases refused
      · cases seen
    | _ => cases seen
  | forget | cease | cancelWorkers | closePool | joinWorkers | takePending | finish => cases seen

/-- **How a server answers over its life.**  However calls, workers and the stop alternate, every
call is answered as what was seen before says.  A task is registered if no start was accepted and
the name is its own; a start is accepted if none was and the settings can be used.  A submission is
accepted if a start was accepted, no stop has come since and its task is registered; it runs the
last task that was registered under its name, if any, and never ends as one of an unknown task.
There is one accepted start, nothing is registered after it, and a refused call leaves the server as
it is. -/
theorem answers_over_life {events : List (Event τ)}
    (run : (create settings : Server τ).run? events = some s) :
    let h := (create settings : Server τ).record events
    Run.Always (Lawful settings) h ∧
      (∀ before later, h = before ++ .started (.ok ()) :: later →
        isStarted before = false ∧ isStarted later = false ∧ registrations later = []) ∧
      (s.phase = .idle ↔ isStarted h = false) ∧
      s.isRunning = isUp h ∧
      s.tasks = registrations h ∧
      (s.phase ≠ .idle → ∀ name, s.pool.registry.get? name = lastTask? h name) ∧
      ∀ e, ∀ o ∈ s.noted e, o.isRefusal → s.apply e = some s := by
  intro h
  have served : Served settings s h := served_of_run run
  refine ⟨served.lawful, fun before later => once_started served.lawful, served.idle, ?_,
    served.tasks, served.get?_eq, fun e o seen => apply_of_refusal seen⟩
  rw [Bool.eq_iff_iff, ← served.up, isRunning, beq_iff_eq]

/-- A submission comes too early; of two tasks with one name the later one is run, before the server
stops; and then it takes neither a submission nor another start. -/
def sampleLife : List (Event Nat) :=
  [.register "pong" "ping" 1, .enqueue ⟨.ofNat 1⟩ "ping" .empty .epoch, .register "ping" "ping" 1,
    .register "ping" "ping" 2, .start, .register "pong" "pong" 3, .start,
    .enqueue ⟨.ofNat 2⟩ "pong" .empty .epoch, .enqueue ⟨.ofNat 3⟩ "ping" .empty .epoch,
    .work (.wake 0), .work (.look 0), .work (.take 0), .work (.count 0), .work (.begin 0 .epoch),
    .work (.finish 0 (.returned .null)), .work (.uncount 0), .work (.store 0), .halt,
    .enqueue ⟨.ofNat 4⟩ "ping" .empty .epoch, .start]

theorem sampleLife_answers :
    let x : Submission := .create ⟨.ofNat 3⟩ "ping" .empty (.ofSecs 3600) .epoch
    let h := (create { workers := 1 } : Server Nat).record sampleLife
    h = [.registered "pong" "ping" 1 (.error (wrongName "ping" "pong")),
        .submitted "ping" (.error .notInitialised), .registered "ping" "ping" 1 (.ok ()),
        .registered "ping" "ping" 2 (.ok ()), .started (.ok ()),
        .registered "pong" "pong" 3 (.error .alreadyStarted), .started (.error .alreadyStarted),
        .submitted "pong" (.error (.unknownTask "pong")), .submitted "ping" (.ok x), .ran x 2,
        .ended x (.ok .null), .halted, .submitted "ping" (.error .notInitialised),
        .started (.error .alreadyStarted)] ∧
      Run.Always (Lawful { workers := 1 }) h ∧
      ∃ s, (create { workers := 1 }).run? sampleLife = some s ∧ s.isRunning = isUp h := by
  intro x h
  have run : (create { workers := 1 }).run? sampleLife = some _ := rfl
  obtain ⟨lawful, -, -, up, -⟩ := answers_over_life run
  exact ⟨rfl, lawful, _, run, up⟩

/-- After a start that was refused for its settings, tasks may still be registered. -/
example : (create { workers := 0 } : Server Nat).record
    [.register "ping" "ping" 1, .start, .register "pong" "pong" 2] =
    [.registered "ping" "ping" 1 (.ok ()),
      .started (.error (.validation "num_workers must be greater than zero")),
      .registered "pong" "pong" 2 (.ok ())] := rfl

end Server

end JobNode
