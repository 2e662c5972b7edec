import JobNode.Manager.Procedure

/-!
# Procedures step by step

The steps of a procedure come between the steps of others, so all that a procedure knows of the jobs
is what has passed between it and the store so far.  Two properties of procedures are therefore
stated by recursion on the steps to come, for every answer that the store may give:

* `Procedure.Ends`: what the end of a procedure has to do with its exchanges.
* `Procedure.Keeps`: every job that is saved stands on what was read, in the light of a history that
  grows meanwhile.
* `Procedure.step_of_advance`: the ways in which a step may go.
* `Procedure.Ends.step`, `Procedure.Keeps.step`: both are kept by every step.
-/

namespace JobNode.Procedure

variable {α β : Type}

/-- What passes between a procedure and the store. -/
inductive Exchange where
  /-- A job was read. -/
  | found (job : Job)
  /-- A job was saved. -/
  | saved (job : Job)

/-- The job of an exchange. -/
def Exchange.job : Exchange → Job
  | found job | saved job => job

/-- The job of an exchange that saved one. -/
def Exchange.saved? : Exchange → Option Job
  | found _ => none
  | saved job => some job

/-- The jobs that were saved, in order. -/
def saves (past : List Exchange) : List Job := past.filterMap Exchange.saved?

@[simp]
theorem saves_append (past later : List Exchange) :
    saves (past ++ later) = saves past ++ saves later :=
  List.filterMap_append

theorem mem_saves {past : List Exchange} {job : Job} :
    job ∈ saves past ↔ .saved job ∈ past := by
  rw [saves, List.mem_filterMap]
  constructor
  · rintro ⟨x, mem, eq⟩
    cases x with
    | found other => cases eq
    | saved other =>
      cases eq
      exact mem
  · intro mem
    exact ⟨_, mem, rfl⟩

/-- The jobs in memory after saves. -/
def keep (m : Memory) (jobs : List Job) : Memory := jobs.foldl Memory.save m

/-- What passes between a procedure and the store with one answer. -/
def exchange (m : Memory) : Procedure α → Reply → List Exchange
  | get key _, .served => ((m.get? key).map .found).toList
  | save job _, .served => [.saved job]
  | _, _ => []

/-- The ways in which a step may go. -/
inductive Step (m : Memory) : Procedure α → List Exchange → Procedure α → Memory → Prop
  | found {key : JobKey} {next : Except Error Job → Procedure α} {job : Job} :
    m.get? key = some job → Step m (get key next) [.found job] (next (.ok job)) m
  | unread {key : JobKey} {next : Except Error Job → Procedure α} (cause : Error) :
    Step m (get key next) [] (next (.error cause)) m
  | saved {job : Job} {next : Except Error Unit → Procedure α} :
    Step m (save job next) [.saved job] (next (.ok ())) (m.save job)
  | unsaved {job : Job} {next : Except Error Unit → Procedure α} (cause : Error) :
    Step m (save job next) [] (next (.error cause)) m
  | time {next : Instant → Procedure α} (t : Instant) : Step m (now next) [] (next t) m
  | identifier {next : JobId → Procedure α} (id : JobId) : Step m (newId next) [] (next id) m

variable {m m' : Memory} {p p' : Procedure α} {reply : Reply}

theorem step_of_advance (happens : p.advance? m reply = some (p', m')) :
    Step m p (p.exchange m reply) p' m' := by
  cases p with
  | done a => cases reply <;> cases happens
  | get key next =>
    cases reply with
    | served =>
      cases at_ : m.get? key with
      | some job =>
        simp only [advance?, Store.get, at_] at happens
        cases happens
        simpa [exchange, at_] using Step.found at_
      | none =>
        simp only [advance?, Store.get, at_] at happens
        cases happens
        simpa [exchange, at_] using Step.unread (Store.missing key)
    | failed cause =>
      cases happens
      exact .unread cause
    | time t => cases happens
    | identifier id => cases happens
  | save job next =>
    cases reply with
    | served =>
      cases happens
      exact .saved
    | failed cause =>
      cases happens
      exact .unsaved cause
    | time t => cases happens
    | identifier id => cases happens
  | now next =>
    cases reply with
    | time t =>
      cases happens
      exact .time t
    | served => cases happens
    | failed cause => cases happens
    | identifier id => cases happens
  | newId next =>
    cases reply with
    | identifier id =>
      cases happens
      exact .identifier id
    | served => cases happens
    | failed cause => cases happens
    | time t => cases happens

/-! ## The jobs in memory -/

theorem Step.memory_eq {past : List Exchange} (step : Step m p past p' m') :
    m' = keep m (saves past) := by
  cases step <;> rfl

/-- What a procedure has read or saved is there, under its own key. -/
theorem Step.isSome_of_mem {past : List Exchange} (step : Step m p past p' m') {x : Exchange}
    (mem : x ∈ past) : (m'.get? x.job.key).isSome := by
  cases step with
  | found at_ =>
    cases List.mem_singleton.1 mem
    rw [Exchange.job, Memory.key_of_get? at_, at_]
    rfl
  | saved =>
    cases List.mem_singleton.1 mem
    rw [Exchange.job, Memory.get?_save_self]
    rfl
  | unread cause => cases mem
  | unsaved cause => cases mem
  | time t => cases mem
  | identifier id => cases mem

theorem isSome_keep {m : Memory} {key : JobKey} (there : (m.get? key).isSome) (jobs : List Job) :
    ((keep m jobs).get? key).isSome := by
  induction jobs generalizing m with
  | nil => exact there
  | cons job rest ih =>
    refine ih ?_
    rw [Memory.get?_save]
    split
    · rfl
    · exact there

/-! ## The end -/

/-- Whatever the answers, a procedure that has had some exchanges ends with a value that fits all its
exchanges. -/
def Ends (post : List Exchange → α → Prop) : Procedure α → List Exchange → Prop
  | done a, past => post past a
  | get key next, past =>
    (∀ cause, (next (.error cause)).Ends post past) ∧
      ∀ job, job.key = key → (next (.ok job)).Ends post (past ++ [.found job])
  | save job next, past =>
    (∀ cause, (next (.error cause)).Ends post past) ∧
      (next (.ok ())).Ends post (past ++ [.saved job])
  | now next, past => ∀ t, (next t).Ends post past
  | newId next, past => ∀ id, (next id).Ends post past

theorem Ends.step {post : List Exchange → α → Prop} {past passed : List Exchange}
    (h : p.Ends post past) (step : Step m p passed p' m') : p'.Ends post (past ++ passed) := by
  cases step with
  | found at_ => exact h.2 _ (Memory.key_of_get? at_)
  | unread cause => simpa using h.1 cause
  | saved => exact h.2
  | unsaved cause => simpa using h.1 cause
  | time t => simpa using h t
  | identifier id => simpa using h id

/-! ## What is saved -/

section Keeps

variable {δ : Type} {stands : List δ → Job → Prop}

/-- Whatever the answers and whatever happens meanwhile, a procedure saves only jobs that stand on
the history, as long as it reads such jobs only. -/
def Keeps (stands : List δ → Job → Prop) : Procedure α → List δ → Prop
  | done _, _ => True
  | get key next, h =>
    ∀ k, h ⊆ k →
      (∀ cause, (next (.error cause)).Keeps stands k) ∧
        ∀ job, job.key = key → stands k job → (next (.ok job)).Keeps stands k
  | save job next, h =>
    stands h job ∧ ∀ k, h ⊆ k → ∀ answer, (next answer).Keeps stands k
  | now next, h => ∀ k, h ⊆ k → ∀ t, (next t).Keeps stands k
  | newId next, h => ∀ k, h ⊆ k → ∀ id, (next id).Keeps stands k

theorem Keeps.mono {h k : List δ} (keeps : p.Keeps stands h) (later : h ⊆ k)
    (grows : ∀ job, stands h job → stands k job) : p.Keeps stands k := by
  cases p with
  | done a => trivial
  | get key next => exact fun l more => keeps l (List.Subset.trans later more)
  | save job next =>
    exact ⟨grows job keeps.1, fun l more => keeps.2 l (List.Subset.trans later more)⟩
  | now next => exact fun l more => keeps l (List.Subset.trans later more)
  | newId next => exact fun l more => keeps l (List.Subset.trans later more)

theorem Keeps.step {h k : List δ} {passed : List Exchange} (keeps : p.Keeps stands h)
    (later : h ⊆ k) (sound : ∀ key job, m.get? key = some job → stands k job)
    (step : Step m p passed p' m') : p'.Keeps stands k := by
  cases step with
  | found at_ => exact (keeps k later).2 _ (Memory.key_of_get? at_) (sound _ _ at_)
  | unread cause => exact (keeps k later).1 cause
  | saved => exact keeps.2 k later _
  | unsaved cause => exact keeps.2 k later _
  | time t => exact keeps k later t
  | identifier id => exact keeps k later id

/-- Only jobs that stand on the history get into memory. -/
theorem Keeps.sound {h : List δ} {passed : List Exchange} (keeps : p.Keeps stands h)
    (sound : ∀ key job, m.get? key = some job → stands h job) (step : Step m p passed p' m')
    {key : JobKey} {job : Job} (at_ : m'.get? key = some job) : stands h job := by
  cases step with
  | saved =>
    rw [Memory.get?_save] at at_
    split at at_
    · cases at_
      exact keeps.1
    · exact sound key job at_
  | found _ => exact sound key job at_
  | unread cause => exact sound key job at_
  | unsaved cause => exact sound key job at_
  | time t => exact sound key job at_
  | identifier id => exact sound key job at_

end Keeps

end JobNode.Procedure
