import JobNode.Proofs.Manager.EndToEnd

/-!
# No status without a cause

Records are read as a whole and saved as a whole, and the last save wins, so a saved record may stand
on an old one.  Whatever is overwritten that way, a record is never a success or a failure unless the
history holds the cause: what is read stands on the history, what is saved stands on what was read,
and histories only grow.

* `Caused.settled`: finalizing keeps the causes, in the light of the choice that it follows.
* `Traffic.causal_of_run`: everything that is stored or under way stands on the history.
* `Traffic.status_has_cause`: what this means for the stored records.
-/

namespace JobNode.Manager

open Procedure (Exchange saves)

/-- The log entry about work that has failed. -/
def failureEntry (a : Assignment) (text : String) (t : Instant) : LogEntry :=
  ⟨"manager[" ++ a.description ++ "]", "manager[" ++ a.description ++ "] " ++ text, t⟩

/-- An execution has created the job, its work was well, and it chose to complete the job. -/
def Succeeded (h : List Traffic.Mark) (key : JobKey) : Prop :=
  ∃ i a t description, a.key = key ∧ a.created = true ∧
    .execution i (.exchanged (.saved (Job.create key.id key.account description t))) ∈ h ∧
    .execution i (.worked (.ok ())) ∈ h ∧ .execution i (.chose a (.completion (.ok ()))) ∈ h

/-- The work of an execution on the job has failed with a text, and it chose to complete the job. -/
def FailedWith (h : List Traffic.Mark) (key : JobKey) (a : Assignment) (text : String) : Prop :=
  a.key = key ∧ ∃ i, .execution i (.worked (.error text)) ∈ h ∧
    .execution i (.chose a (.completion (.error text))) ∈ h

/-- The status of a record stands on the history. -/
structure Caused (h : List Traffic.Mark) (job : Job) : Prop where
  success : job.status = .success → Succeeded h job.key
  failed : job.status = .failed →
    ∃ a text t, FailedWith h job.key a text ∧ failureEntry a text t ∈ job.logs

/-- A choice that finalizing may follow. -/
structure Founded (h : List Traffic.Mark) (a : Assignment) (branch : Branch) : Prop where
  success : branch = .completion (.ok ()) → a.created = true → Succeeded h a.key
  failed : ∀ text, branch = .completion (.error text) → FailedWith h a.key a text

variable {h k : List Traffic.Mark} {job : Job} {a : Assignment} {branch : Branch}

/-! ## Histories grow -/

theorem Succeeded.mono {key : JobKey} (succeeded : Succeeded h key) (later : h ⊆ k) :
    Succeeded k key := by
  obtain ⟨i, a, t, description, own, created, saved, worked, chose⟩ := succeeded
  exact ⟨i, a, t, description, own, created, later saved, later worked, later chose⟩

theorem FailedWith.mono {key : JobKey} {text : String} (failed : FailedWith h key a text)
    (later : h ⊆ k) : FailedWith k key a text := by
  obtain ⟨own, i, worked, chose⟩ := failed
  exact ⟨own, i, later worked, later chose⟩

theorem Caused.mono (later : h ⊆ k) (caused : Caused h job) : Caused k job where
  success status := (caused.success status).mono later
  failed status := by
    obtain ⟨a, text, t, failed, entry⟩ := caused.failed status
    exact ⟨a, text, t, failed.mono later, entry⟩

theorem Founded.mono (founded : Founded h a branch) (later : h ⊆ k) : Founded k a branch where
  success eq created := (founded.success eq created).mono later
  failed text eq := (founded.failed text eq).mono later

/-! ## What is saved -/

theorem Caused.of_pending (pending : job.status = .pending) : Caused h job where
  success status := by rw [pending] at status; cases status
  failed status := by rw [pending] at status; cases status

/-- A record with the same status and more entries stands on the same causes. -/
theorem Caused.of_same {next : Job} (caused : Caused h job) (key : next.key = job.key)
    (status : next.status = job.status) (logs : job.logs ⊆ next.logs) : Caused h next where
  success now := by
    rw [key]
    exact caused.success (status ▸ now)
  failed now := by
    obtain ⟨a, text, t, failed, entry⟩ := caused.failed (status ▸ now)
    refine ⟨a, text, t, ?_, logs entry⟩
    rw [key]
    exact failed

/-- Finalizing keeps the causes, in the light of the choice that it follows. -/
theorem Caused.settled (caused : Caused h job) (founded : Founded h a branch)
    (own : job.key = a.key) (t : Instant) : Caused h (branch.settled a t job) := by
  by_cases pending : job.status = .pending
  · have status : (branch.settled a t job).status = branch.verdict a := if_pos pending
    constructor
    · intro success
      rw [status] at success
      rw [key_settled, own]
      cases branch with
      | cancellation => cases success
      | completion last =>
        cases last with
        | error text => cases success
        | ok done =>
          refine founded.success rfl ?_
          cases created : a.created with
          | true => rfl
          | false => simp [Branch.verdict, created] at success
    · intro failed
      rw [status] at failed
      rw [key_settled, own]
      cases branch with
      | cancellation => cases failed
      | completion last =>
        cases last with
        | error text =>
          refine ⟨a, text, t, founded.failed text rfl, ?_⟩
          exact List.mem_append_right _ (List.mem_singleton.2 rfl)
        | ok done => cases created : a.created <;> simp [Branch.verdict, created] at failed
  · exact caused.of_same (key_settled branch a t job) (if_neg pending)
      (List.subset_append_left _ _)

/-! ## Procedures -/

theorem finalize_keeps (founded : Founded h a branch) : (finalize a branch).Keeps Caused h := by
  -- what is read stands on the history of the read, what is saved on the longer one of the save
  cases branch with
  | completion last =>
    intro k later
    refine ⟨fun cause => trivial, fun job own caused l more t => ⟨?_, fun _ _ answer => ?_⟩⟩
    · rw [completed_eq_settled]
      exact (caused.mono more).settled (founded.mono (List.Subset.trans later more)) own t
    · cases answer <;> trivial
  | cancellation =>
    intro k later
    refine ⟨fun cause => trivial, fun job own caused l more t => ⟨?_, fun _ _ answer => trivial⟩⟩
    rw [addLog_eq_settled]
    exact (caused.mono more).settled (founded.mono (List.Subset.trans later more)) own t

theorem createJob_keeps (account : AccountId) (description : String) :
    (createJob account description).Keeps Caused h := by
  intro k later id l more t
  exact ⟨.of_pending rfl, fun _ _ answer => trivial⟩

theorem openJob_keeps (r : Request) :
    (openJob r.account r.existing r.description).Keeps Caused h := by
  unfold openJob
  cases r.existing with
  | none => exact createJob_keeps _ _
  | some id =>
    intro k later
    refine ⟨fun cause => ?_, fun job own caused => trivial⟩
    simp only
    split
    · exact createJob_keeps _ _
    · trivial

/-- What an operation saves has the status of what it has read. -/
theorem operation_keeps (o : Operation) : o.procedure.Keeps Caused h := by
  cases o with
  | updateTask key status task message =>
    intro k later
    refine ⟨fun cause => trivial, fun job own caused l more t => ⟨?_, fun _ _ answer => trivial⟩⟩
    exact (caused.mono more).of_same rfl rfl (List.subset_append_left _ _)
  | updateValue key name bytes =>
    intro k later
    refine ⟨fun cause => trivial, fun job own caused l more t => ⟨?_, fun _ _ answer => trivial⟩⟩
    exact (caused.mono more).of_same rfl rfl (List.Subset.refl _)
  | read key =>
    intro k later
    exact ⟨fun cause => trivial, fun job own caused => trivial⟩

/-! ## The traffic of a manager -/

/-- What is left of an execution saves only what stands on the history. -/
def Stage.Keeps (h : List Traffic.Mark) : Stage → Prop
  | .opening rest _ => rest.Keeps Caused h
  | .running _ (some (_, rest)) => rest.Keeps Caused h
  | _ => True

theorem Stage.Keeps.mono {stage : Stage} (keeps : stage.Keeps h) (later : h ⊆ k) :
    stage.Keeps k := by
  cases stage with
  | opening rest c =>
    have before : rest.Keeps Caused h := keeps
    exact before.mono later fun _ => Caused.mono later
  | refused cause => trivial
  | running call finalizer? =>
    cases finalizer? with
    | none => trivial
    | some begun =>
      have before : begun.2.Keeps Caused h := keeps
      exact before.mono later fun _ => Caused.mono later

theorem Stage.Keeps.congr {call next : Call} {finalizer? : Option (Branch × Procedure Finalized)}
    (keeps : (Stage.running call finalizer?).Keeps h) :
    (Stage.running next finalizer?).Keeps h := by
  cases finalizer? <;> exact keeps

/-- A choice is founded on what has happened to the execution that makes it. -/
theorem founded_of_choose {r : Request} {i : Nat} {call : Call}
    {finalizer? : Option (Branch × Procedure Finalized)}
    (running : Running r call finalizer? (Traffic.of i h))
    (way : branch? call.work call.cancelled = some branch) :
    Founded (h ++ [.execution i (.chose call.assignment branch)]) call.assignment branch := by
  have worked {last : WorkEnd} (eq : branch = .completion last) :
      .execution i (.worked last) ∈ h := by
    refine Traffic.mem_of.1 (mem_ends.1 ?_)
    rw [running.ends]
    subst eq
    unfold branch? at way
    split at way
    next found ended =>
      cases way
      rw [ended]
      exact List.mem_singleton.2 rfl
    · split at way <;> cases way
  have chose : .execution i (.chose call.assignment branch) ∈
      h ++ [.execution i (.chose call.assignment branch)] := by simp
  constructor
  · rintro rfl created
    -- the execution that chooses is the one whose opening saved the new job
    obtain ⟨opening, later, job, split, -, -, opened, account, id, -⟩ := running.entered
    rw [created] at opened
    obtain ⟨saved, t, fresh⟩ := opened
    have mem : .exchanged (.saved job) ∈ Traffic.of i h := by
      rw [split]
      refine List.mem_append_left _ (mem_exchanges.1 ?_)
      rw [saved]
      exact List.mem_singleton.2 rfl
    refine ⟨i, call.assignment, t, r.description, rfl, created, ?_,
      List.mem_append_left _ (worked rfl), chose⟩
    rw [fresh, ← account, ← id] at mem
    exact List.mem_append_left _ (Traffic.mem_of.1 mem)
  · rintro text rfl
    exact ⟨rfl, i, List.mem_append_left _ (worked rfl), chose⟩

/-- A step of an execution keeps what is stored, and what is left of it, standing on the history. -/
theorem keeps_of_step {r : Request} {i : Nat} {m m' : Memory} {before after : Stage}
    {marks : List Mark} (keeps : before.Keeps h)
    (sound : ∀ key job, m.get? key = some job → Caused h job)
    (accords : before.Accords r (Traffic.of i h))
    (step : Execution.Step r m before marks after m') :
    after.Keeps (h ++ marks.map (.execution i)) ∧
      ∀ key job, m'.get? key = some job → Caused (h ++ marks.map (.execution i)) job := by
  have later : h ⊆ h ++ marks.map (.execution i) := List.subset_append_left _ _
  have soundLater (key : JobKey) (job : Job) (at_ : m.get? key = some job) :
      Caused (h ++ marks.map (.execution i)) job := (sound key job at_).mono later
  cases step with
  | prepare moves =>
    exact ⟨Procedure.Keeps.step keeps later soundLater moves, fun key job at_ =>
      (Procedure.Keeps.sound keeps sound moves at_).mono later⟩
  | finalize moves =>
    exact ⟨Procedure.Keeps.step keeps later soundLater moves, fun key job at_ =>
      (Procedure.Keeps.sound keeps sound moves at_).mono later⟩
  | choose watching way => exact ⟨finalize_keeps (founded_of_choose accords way), soundLater⟩
  | enter => exact ⟨trivial, soundLater⟩
  | refuse => exact ⟨trivial, soundLater⟩
  | @cancelOpening rest c =>
    have same : (Stage.opening rest true).Keeps h := keeps
    exact ⟨same.mono later, soundLater⟩
  | cancelRefused => exact ⟨trivial, soundLater⟩
  | cancelRunning => exact ⟨(keeps.mono later).congr, soundLater⟩
  | endWork still => exact ⟨(keeps.mono later).congr, soundLater⟩
  | finish finalizing => exact ⟨(keeps.mono later).congr, soundLater⟩
  | receive listening => exact ⟨(keeps.mono later).congr, soundLater⟩
  | stopListening => exact ⟨(keeps.mono later).congr, soundLater⟩

namespace Traffic

/-- Everything that is stored or under way stands on the history. -/
structure Causal (s : Traffic) (h : List Mark) : Prop where
  accord : InAccord s h
  jobs : ∀ key job, s.memory.get? key = some job → Caused h job
  operations : ∀ rest ∈ s.operations, rest.Keeps Caused h
  executions : ∀ (i : Nat) (x : Execution), s.executions[i]? = some x → x.stage.Keeps h

theorem Causal.step {s next : Traffic} {marks : List Mark} (before : Causal s h)
    (step : Step s marks next) : Causal next (h ++ marks) := by
  have accord := before.accord.step step
  have later : h ⊆ h ++ marks := List.subset_append_left _ _
  have jobs (key : JobKey) (job : Job) (at_ : s.memory.get? key = some job) :
      Caused (h ++ marks) job := (before.jobs key job at_).mono later
  have operations (rest : Procedure (Except Error (Option Job))) (mem : rest ∈ s.operations) :
      rest.Keeps Caused (h ++ marks) :=
    (before.operations rest mem).mono later fun _ => Caused.mono later
  have executions (i : Nat) (x : Execution) (at_ : s.executions[i]? = some x) :
      x.stage.Keeps (h ++ marks) := (before.executions i x at_).mono later
  cases step with
  | request r =>
    refine ⟨accord, jobs, operations, fun i x at_ => ?_⟩
    rcases of_getElem?_concat at_ with old | ⟨-, rfl⟩
    · exact executions i x old
    · exact openJob_keeps r
  | @execution i x y marks memory deliveries at_ moves same handed =>
    obtain ⟨keeps, sound⟩ :=
      keeps_of_step (before.executions i x at_) before.jobs (before.accord.1 i x at_).1 moves
    refine ⟨accord, sound, operations, fun j z found => ?_⟩
    have inRange := (List.getElem?_eq_some_iff.1 at_).1
    -- the others may still save what they read before, and it stands on the longer history too
    by_cases own : i = j
    · subst own
      simp only [List.getElem?_set_self inRange, Option.some.injEq] at found
      subst found
      exact keeps
    · simp only [List.getElem?_set_ne own] at found
      exact executions j z found
  | operate o =>
    refine ⟨accord, jobs, fun rest mem => ?_, executions⟩
    rcases List.mem_append.1 mem with old | new
    · exact operations rest old
    · cases List.mem_singleton.1 new
      exact operation_keeps o
  | @operation j rest rest' passed memory at_ moves =>
    have mem := List.mem_of_getElem? at_
    refine ⟨accord, fun key job found => ?_, fun other found => ?_, executions⟩
    · exact ((before.operations rest mem).sound before.jobs moves found).mono later
    · rcases List.mem_or_eq_of_mem_set found with old | rfl
      · exact operations other old
      · exact (before.operations rest mem).step later jobs moves
  | deliver handed => exact ⟨accord, jobs, operations, executions⟩

/-- Everything that is stored or under way stands on the history, if every job was pending at
first. -/
theorem causal_of_run {m : Memory} {n : Nat} {events : List Event} {s : Traffic}
    (pending : ∀ key job, m.get? key = some job → job.status = .pending)
    (run : (create m n).run? events = some s) : Causal s ((create m n).history events) := by
  refine Run.history_induction (fun before happens => before.step (step_of_apply happens)) ?_ run
  exact
    { accord := inAccord_create m n
      jobs := fun key job at_ => .of_pending (pending key job at_)
      operations := fun _ mem => (nomatch mem)
      executions := fun _ _ at_ => (nomatch at_) }

/-- **No overall status without its cause.**  However the steps of executions, finalizers and
operations alternate, whatever they overwrite and whichever of them fail: a stored job is a success
only if the execution that created it had good work and chose to complete it, and a failure only if
some execution on it had failing work and chose to complete it, and the log of that very record says
so.  A job whose creating executions were all cancelled is no success, and it is pending unless the
work of an execution that found it has failed. -/
theorem status_has_cause {m : Memory} {n : Nat} {events : List Event} {s : Traffic}
    (pending : ∀ key job, m.get? key = some job → job.status = .pending)
    (run : (create m n).run? events = some s) :
    let h := (create m n).history events
    ∀ key job, s.memory.get? key = some job →
      (job.status = .success → Succeeded h key) ∧
      (job.status = .failed →
        ∃ a text t, FailedWith h key a text ∧ failureEntry a text t ∈ job.logs) ∧
      ((∀ i a branch, .execution i (.chose a branch) ∈ h → a.key = key → a.created = true →
          branch = .cancellation) →
        job.status ≠ .success ∧
          ((∀ a text, FailedWith h key a text → a.created = true) → job.status = .pending)) := by
  intro h key job at_
  have caused := (causal_of_run pending run).jobs key job at_
  have own : job.key = key := Memory.key_of_get? at_
  have success (status : job.status = .success) : Succeeded h key := own ▸ caused.success status
  have failed (status : job.status = .failed) :
      ∃ a text t, FailedWith h key a text ∧ failureEntry a text t ∈ job.logs :=
    own ▸ caused.failed status
  refine ⟨success, failed, fun cancelled => ⟨fun status => ?_, fun fresh => ?_⟩⟩
  · obtain ⟨i, a, t, description, same, created, -, -, chose⟩ := success status
    exact nomatch cancelled i a _ chose same created
  · cases status : job.status with
    | pending => rfl
    | success =>
      obtain ⟨i, a, t, description, same, created, -, -, chose⟩ := success status
      exact nomatch cancelled i a _ chose same created
    | failed =>
      obtain ⟨a, text, t, fails, -⟩ := failed status
      have created := fresh a text fails
      obtain ⟨same, i, -, chose⟩ := fails
      exact nomatch cancelled i a _ chose same created

/-- A job that one execution creates and another finds.  The first is cancelled and chooses to note
that; meanwhile the work of the second fails, and a value is read that will be saved too late. -/
def sampleContest : List Event :=
  let key : JobKey := ⟨sampleAccount, ⟨.ofNat 4⟩⟩
  [.request ⟨sampleAccount, none, "demo"⟩, .execution 0 (.prepare (.identifier ⟨.ofNat 4⟩)),
    .execution 0 (.prepare (.time .epoch)), .execution 0 (.prepare .served), .execution 0 .enter,
    .request ⟨sampleAccount, some ⟨.ofNat 4⟩, "again"⟩, .execution 1 (.prepare .served),
    .execution 1 .enter, .operate (.updateValue key "k" [1]), .operation 0 .served,
    .execution 0 .cancel, .execution 0 .choose, .execution 1 (.endWork (.error "boom")),
    .execution 1 .choose, .execution 1 (.finalize .served), .execution 1 (.finalize (.time .epoch)),
    .execution 1 (.finalize .served), .execution 0 (.endWork (.ok ())),
    .execution 0 (.finalize .served), .execution 0 (.finalize (.time .epoch)),
    .execution 0 (.finalize .served), .operation 0 (.time .epoch),
    .operation 0 (.failed (.other "full"))]

theorem sampleContest_has_cause :
    let key : JobKey := ⟨sampleAccount, ⟨.ofNat 4⟩⟩
    let m := Memory.empty.save (Job.create ⟨.ofNat 3⟩ sampleAccount "old" .epoch)
    let h := (create m 1).history sampleContest
    (∀ key job, m.get? key = some job → job.status = .pending) ∧
      ∃ s job, (create m 1).run? sampleContest = some s ∧ s.memory.get? key = some job ∧
        job.status = .failed ∧
        ∃ a text t, FailedWith h key a text ∧ failureEntry a text t ∈ job.logs := by
  intro key m h
  have pending : ∀ key job, m.get? key = some job → job.status = .pending := by
    intro key job at_
    rw [Memory.get?_save] at at_
    split at at_
    · cases at_
      rfl
    · cases at_
  have last : ((create m 1).run? sampleContest).bind (fun s => (s.memory.get? key).map Job.status) =
      some .failed := by decide +kernel
  obtain ⟨s, run, found⟩ := Option.bind_eq_some_iff.1 last
  obtain ⟨job, at_, status⟩ := Option.map_eq_some_iff.1 found
  exact ⟨pending, s, job, run, at_, status, (status_has_cause pending run key job at_).2.1 status⟩

end Traffic

end JobNode.Manager
