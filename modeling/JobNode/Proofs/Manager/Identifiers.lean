import JobNode.Proofs.Manager.EndToEnd

/-!
# Where the identifiers of new jobs come from

An execution that creates a job draws an identifier for it and saves the job under that one.  So if
no identifier is drawn twice, and none that was drawn names an old job, then a new job takes the
place of no other.

* `Procedure.SavesDrawn`: a procedure saves jobs under identifiers that it has drawn.
* `Traffic.NewIds`: what the source of identifiers promises.
* `Traffic.Drawing.drawn_of_creation`: whoever saves a new job has drawn its identifier.
-/

namespace JobNode.Procedure

variable {α : Type} {m m' : Memory} {p p' : Procedure α} {reply : Reply} {drawn : JobId → Prop}

/-- Whatever the answers, a procedure saves jobs only under identifiers that were drawn. -/
def SavesDrawn : Procedure α → (JobId → Prop) → Prop
  | done _, _ => True
  | get _ next, drawn => ∀ answer, (next answer).SavesDrawn drawn
  | save job next, drawn => drawn job.id ∧ ∀ answer, (next answer).SavesDrawn drawn
  | now next, drawn => ∀ t, (next t).SavesDrawn drawn
  | newId next, drawn => ∀ id, (next id).SavesDrawn fun other => drawn other ∨ other = id

theorem SavesDrawn.mono {more : JobId → Prop} (saves : p.SavesDrawn drawn)
    (grows : ∀ id, drawn id → more id) : p.SavesDrawn more := by
  induction p generalizing drawn more with
  | done a => trivial
  | get key next ih => exact fun answer => ih answer (saves answer) grows
  | save job next ih =>
    exact ⟨grows _ saves.1, fun answer => ih answer (saves.2 answer) grows⟩
  | now next ih => exact fun t => ih t (saves t) grows
  | newId next ih =>
    exact fun id => ih id (saves id) fun other known => known.imp_left (grows other)

theorem SavesDrawn.advance (saves : p.SavesDrawn drawn)
    (happens : p.advance? m reply = some (p', m')) :
    p'.SavesDrawn fun id => drawn id ∨ reply = .identifier id := by
  have grows (id : JobId) (known : drawn id) : drawn id ∨ reply = .identifier id := .inl known
  unfold advance? at happens
  split at happens
  · cases happens
    exact (saves _).mono grows
  · cases happens
    exact (saves _).mono grows
  · cases happens
    exact (saves.2 _).mono grows
  · cases happens
    exact (saves.2 _).mono grows
  · cases happens
    exact (saves _).mono grows
  · cases happens
    refine (saves _).mono fun other known => known.imp_right ?_
    rintro rfl
    rfl
  · cases happens

theorem SavesDrawn.drawn_of_mem (saves : p.SavesDrawn drawn) {job : Job}
    (mem : .saved job ∈ p.exchange m reply) : drawn job.id := by
  unfold exchange at mem
  split at mem
  · simp at mem
  · cases List.mem_singleton.1 mem
    exact saves.1
  · cases mem

end JobNode.Procedure

namespace JobNode.Manager

/-! ## Executions -/

theorem createJob_savesDrawn (account : AccountId) (description : String) (drawn : JobId → Prop) :
    (createJob account description).SavesDrawn drawn :=
  fun _ _ => ⟨.inr rfl, fun _ => trivial⟩

theorem openJob_savesDrawn (r : Request) (drawn : JobId → Prop) :
    (openJob r.account r.existing r.description).SavesDrawn drawn := by
  unfold openJob
  cases r.existing with
  | none => exact createJob_savesDrawn _ _ _
  | some id =>
    intro answer
    cases answer with
    | ok job => trivial
    | error cause =>
      simp only
      split
      · exact createJob_savesDrawn _ _ _
      · trivial

/-- What is left of the opening of a job saves it under an identifier that was drawn. -/
def Stage.SavesDrawn (drawn : JobId → Prop) : Stage → Prop
  | .opening rest _ => rest.SavesDrawn drawn
  | _ => True

namespace Execution

variable {x y : Execution} {m m' : Memory} {e : Event} {drawn : JobId → Prop}

theorem savesDrawn_of_apply (saves : x.stage.SavesDrawn drawn)
    (happens : x.apply m e = some (y, m')) :
    y.stage.SavesDrawn fun id => drawn id ∨ e = .prepare (.identifier id) := by
  obtain ⟨step, -⟩ := step_of_apply happens
  cases stage : x.stage with
  | opening rest c =>
    rw [stage] at saves
    have left : rest.SavesDrawn drawn := saves
    cases e with
    | prepare reply =>
      simp only [apply, prepare?, stage, Option.map_eq_some_iff] at happens
      obtain ⟨⟨rest', m''⟩, advanced, eq⟩ := happens
      cases eq
      refine (left.advance advanced).mono fun id known => known.imp_right ?_
      rintro rfl
      rfl
    | enter =>
      simp only [apply, Option.map_eq_some_iff] at happens
      obtain ⟨z, entered, eq⟩ := happens
      cases eq
      rcases eq_of_enter entered with ⟨cause, c, -, rfl⟩ | ⟨job, created, c, -, rfl⟩ <;> trivial
    | cancel =>
      cases happens
      rw [cancel, stage]
      exact left.mono fun id => .inl
    | _ =>
      simp [apply, endWork?, choose?, finalize?, finish?, receive?, stopListening?, stage] at happens
  | refused cause =>
    -- an execution that is past the opening does not come back to it
    rw [stage] at step
    generalize y.stage = after, x.marks m e = noted at step ⊢
    cases step
    trivial
  | running call finalizer? =>
    rw [stage] at step
    generalize y.stage = after, x.marks m e = noted at step ⊢
    cases step <;> trivial

/-- Only an execution that opens its job, or its finalizer, saves anything. -/
theorem stage_of_saved {job : Job} (mem : .exchanged (.saved job) ∈ x.marks m e) :
    (∃ rest c reply, x.stage = .opening rest c ∧ .saved job ∈ rest.exchange m reply) ∨
      ∃ call finalizer?, x.stage = .running call finalizer? := by
  cases e with
  | prepare reply =>
    rw [marks] at mem
    split at mem
    next rest c stage => exact .inl ⟨rest, c, reply, stage, by simpa using mem⟩
    · cases mem
  | finalize reply =>
    rw [marks] at mem
    split at mem
    next call branch rest stage => exact .inr ⟨_, _, stage⟩
    · cases mem
  | _ =>
    rw [marks] at mem
    first | simp at mem | (split at mem <;> simp at mem)

/-- A job that is saved before the work is called has an identifier that was drawn. -/
theorem drawn_of_saved {h : List Mark} {job : Job} (accords : x.stage.Accords x.request h)
    (saves : x.stage.SavesDrawn drawn) (early : ∀ mark ∈ h, mark.isEarly)
    (mem : .exchanged (.saved job) ∈ x.marks m e) : drawn job.id := by
  rcases stage_of_saved mem with ⟨rest, c, reply, stage, saved⟩ | ⟨call, finalizer?, stage⟩
  · rw [stage] at saves
    have left : rest.SavesDrawn drawn := saves
    exact left.drawn_of_mem saved
  · rw [stage] at accords
    obtain ⟨opening, later, opened, split, -⟩ := accords.entered
    have invoked := early (.invoked call.assignment.key) (by simp [split])
    cases invoked

end Execution

/-! ## Runs -/

namespace Traffic

/-- The identifier that an execution draws. -/
def draw? : Event → Option (Nat × JobId)
  | .execution i (.prepare (.identifier id)) => some (i, id)
  | _ => none

/-- The identifiers that were drawn, with the execution that drew each. -/
def draws (events : List Event) : List (Nat × JobId) := events.filterMap draw?

/-- Identifiers are unique: none is drawn twice, and none that was drawn names a job that was there
at first. -/
structure NewIds (m : Memory) (events : List Event) : Prop where
  once : ((draws events).map (·.2)).Nodup
  unused : ∀ draw ∈ draws events, ∀ account, m.get? ⟨account, draw.2⟩ = none

/-- An execution that saves a job before it has called the work has drawn the identifier. -/
def SavedDrawn (i : Nat) (events : List Event) (past : List Manager.Mark) : Manager.Mark → Prop
  | .exchanged (.saved job) => (∀ mark ∈ past, mark.isEarly) → (i, job.id) ∈ draws events
  | _ => True

/-- Every execution saves new jobs under identifiers that it has drawn. -/
structure Drawing (s : Traffic) (events : List Event) (h : List Mark) : Prop where
  accord : InAccord s h
  stages : ∀ (i : Nat) (x : Execution), s.executions[i]? = some x →
    x.stage.SavesDrawn fun id => (i, id) ∈ draws events
  saved : ∀ i, Run.Always (SavedDrawn i events) (of i h)

variable {s next : Traffic} {events : List Event} {e : Event} {h marks : List Mark} {i : Nat}

theorem mem_draws_append {draw : Nat × JobId} (known : draw ∈ draws events) :
    draw ∈ draws (events ++ [e]) := by
  rw [draws, List.filterMap_append]
  exact List.mem_append_left _ known

theorem SavedDrawn.mono {past : List Manager.Mark} {mark : Manager.Mark}
    (fits : SavedDrawn i events past mark) : SavedDrawn i (events ++ [e]) past mark := by
  unfold SavedDrawn at fits ⊢
  split at fits
  · exact fun early => mem_draws_append (fits early)
  · trivial

theorem savesDrawn_grow {stage : Stage}
    (saves : stage.SavesDrawn fun id => (i, id) ∈ draws events) :
    stage.SavesDrawn fun id => (i, id) ∈ draws (events ++ [e]) := by
  unfold Stage.SavesDrawn at saves ⊢
  split at saves
  · exact saves.mono fun id => mem_draws_append
  · trivial

theorem Drawing.silent (before : Drawing s events h) (accord : InAccord next (h ++ marks))
    (same : next.executions = s.executions) (silent : ∀ i, of i marks = []) :
    Drawing next (events ++ [e]) (h ++ marks) where
  accord := accord
  stages i x at_ := by
    rw [same] at at_
    exact savesDrawn_grow (before.stages i x at_)
  saved i := by
    rw [of_append, silent, List.append_nil]
    exact (before.saved i).mono fun _ _ => SavedDrawn.mono

/-- What is left of an execution that has gone on saves what was drawn by now. -/
theorem Drawing.stages_step (before : Drawing s events h) {x y : Execution} {memory : Memory}
    {e : Execution.Event} (at_ : s.executions[i]? = some x)
    (moved : x.apply s.memory e = some (y, memory)) :
    y.stage.SavesDrawn fun id => (i, id) ∈ draws (events ++ [.execution i e]) := by
  have after := Execution.savesDrawn_of_apply (before.stages i x at_) moved
  unfold Stage.SavesDrawn at after ⊢
  split at after
  · refine after.mono fun id known => ?_
    rcases known with old | rfl
    · exact mem_draws_append old
    · rw [draws, List.filterMap_append]
      exact List.mem_append_right _ (List.mem_singleton.2 rfl)
  · trivial

/-- What an execution saves when it goes on was drawn before, if the work was not called yet. -/
theorem Drawing.saved_step (before : Drawing s events h) {x : Execution}
    (at_ : s.executions[i]? = some x) (e : Execution.Event) :
    Run.Always (SavedDrawn i (events ++ [.execution i e])) (of i h ++ x.marks s.memory e) := by
  have old := (before.saved i).mono fun _ _ => SavedDrawn.mono (e := .execution i e)
  refine old.append fun past mark later split => ?_
  unfold SavedDrawn
  split
  next job =>
    intro early
    have mem : .exchanged (.saved job) ∈ x.marks s.memory e := by
      rw [split]
      exact List.mem_append_right _ (.head _)
    have young : ∀ mark ∈ of i h, mark.isEarly := fun mark mem =>
      early mark (List.mem_append_left _ mem)
    exact mem_draws_append
      (Execution.drawn_of_saved (before.accord.1 i x at_).1 (before.stages i x at_) young mem)
  · trivial

theorem Drawing.step (before : Drawing s events h) (happens : s.apply e = some next) :
    Drawing next (events ++ [e]) (h ++ s.marks e) := by
  have accord := before.accord.step (step_of_apply happens)
  cases moves_of_apply happens with
  | request r =>
    refine ⟨accord, fun i x at_ => ?_, fun i => ?_⟩
    · rcases of_getElem?_concat at_ with old | ⟨-, rfl⟩
      · exact savesDrawn_grow (before.stages i x old)
      · exact openJob_savesDrawn r _
    · change Run.Always _ (of i (h ++ []))
      rw [List.append_nil]
      exact (before.saved i).mono fun _ _ => SavedDrawn.mono
  | @execution i x y e memory at_ moved =>
    have noted : s.marks (.execution i e) = (x.marks s.memory e).map (.execution i) := by
      rw [marks, at_]
    rw [noted] at accord ⊢
    have inRange := (List.getElem?_eq_some_iff.1 at_).1
    refine ⟨accord, fun j z found => ?_, fun j => ?_⟩
    · by_cases own : i = j
      · subst own
        simp only [List.getElem?_set_self inRange, Option.some.injEq] at found
        subst found
        exact before.stages_step at_ moved
      · simp only [List.getElem?_set_ne own] at found
        exact savesDrawn_grow (before.stages j z found)
    · rw [of_append]
      by_cases own : i = j
      · subst own
        rw [of_execution_self]
        exact before.saved_step at_ e
      · rw [of_execution_of_ne own, List.append_nil]
        exact (before.saved j).mono fun _ _ => SavedDrawn.mono
  | operate o => exact before.silent accord rfl fun i => rfl
  | operation at_ advanced =>
    rw [marks, at_] at accord ⊢
    exact before.silent accord rfl fun i => of_operation _
  | send began => exact before.silent accord rfl fun i => rfl
  | deliver finished => exact before.silent accord rfl fun i => rfl

theorem drawing_of_run {m : Memory} {n : Nat} (run : (create m n).run? events = some s) :
    Drawing s events ((create m n).history events) := by
  have start : Drawing (create m n) [] [] :=
    { accord := inAccord_create m n
      stages := fun _ _ at_ => (nomatch at_)
      saved := fun _ => Run.always_nil }
  exact Run.steps_induction (fun before happens => before.step happens) start run

/-- Whoever saves a job before the work is called has drawn the identifier of the job. -/
theorem Drawing.drawn_of_creation (drawing : Drawing s events h) {past later : List Mark} {job : Job}
    (split : h = past ++ .execution i (.exchanged (.saved job)) :: later)
    (early : ∀ mark ∈ of i past, mark.isEarly) : (i, job.id) ∈ draws events :=
  drawing.saved i _ _ _ (of_split split) early

end Traffic

end JobNode.Manager
