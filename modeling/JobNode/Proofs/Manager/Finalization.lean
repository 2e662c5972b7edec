import JobNode.Manager.Finalizer

/-!
# What finalizing comes to

Finalizing reads the record of a job again, adds at most one log entry, moves the status of a pending
job at most once, and saves the record.  The outcome of the call collects what the work and the store
have to complain about, in this order.

* `Branch.settled`: the record that finalizing saves, as a difference from the record it reads.
* `finalize_run`: finalizing in any surroundings.
* `finalize_on_memory`: finalizing on jobs in memory, where either access may fail.
-/

namespace JobNode.Manager

namespace Branch

/-- The log entry that finalizing adds, if it adds one. -/
def entry? (a : Assignment) (t : Instant) : Branch → Option LogEntry
  | completion (.ok ()) => none
  | completion (.error text) =>
    some ⟨"manager[" ++ a.description ++ "]", "manager[" ++ a.description ++ "] " ++ text, t⟩
  | cancellation => some ⟨"context cancelled", a.cancelledMessage, t⟩

/-- The status that finalizing gives to a pending job. -/
def verdict (a : Assignment) : Branch → Status
  | completion (.ok ()) => if a.created then .success else .pending
  | completion (.error _) => .failed
  | cancellation => .pending

/-- The record of a job after it was finalized. -/
def settled (b : Branch) (a : Assignment) (t : Instant) (job : Job) : Job :=
  { job with
    status := if job.status = .pending then b.verdict a else job.status
    logs := job.logs ++ (b.entry? a t).toList }

/-- The error of the work, if the work has ended with one. -/
def workError? (a : Assignment) : Branch → Option Error
  | completion (.error text) => some (.workFailure ("manager[" ++ a.description ++ "]") text)
  | _ => none

end Branch

/-- The outcome of a call whose work and whose store may have failed. -/
def report : Option Error → Option Error → Except Error Unit
  | none, none => .ok ()
  | some e, none | none, some e => .error e
  | some work, some store => .error (.multiple (work.members ++ store.members))

theorem report_eq_ok_iff {work store : Option Error} :
    report work store = .ok () ↔ work = none ∧ store = none := by
  cases work <;> cases store <;> simp [report]

theorem transitionIfAllowed_failed (job : Job) :
    job.transitionIfAllowed .failed =
      { job with status := if job.status = .pending then .failed else job.status } := by
  cases job with
  | mk id account description status taskStatus values logs createdAt => cases status <;> rfl

theorem transitionIfAllowed_success (job : Job) :
    job.transitionIfAllowed .success =
      { job with status := if job.status = .pending then .success else job.status } := by
  cases job with
  | mk id account description status taskStatus values logs createdAt => cases status <;> rfl

/-! ## The record -/

theorem action_eq (a : Assignment) : a.action = "manager[" ++ a.description ++ "]" := by
  rw [Assignment.action, logPrefix]
  simp

/-- The message about failed work. -/
theorem message_workFailure (a : Assignment) (text : String) :
    (Error.workFailure a.action text).message =
      "manager[" ++ a.description ++ "] " ++ text := by
  have spaced : "] " = "]" ++ " " := by decide
  change a.action ++ " " ++ text = _
  rw [action_eq, spaced]
  simp only [String.append_assoc]

theorem completed_eq_settled (a : Assignment) (last : WorkEnd) (t : Instant) (job : Job) :
    completed a last t job = (Branch.completion last).settled a t job := by
  cases last with
  | error text =>
    simp only [completed, failure?, transitionIfAllowed_failed, message_workFailure, Job.addLog]
    simp only [Branch.settled, Branch.verdict, Branch.entry?, action_eq, Option.toList_some]
  | ok done =>
    simp only [completed, failure?]
    cases created : a.created with
    | true =>
      simp [transitionIfAllowed_success, Branch.settled, Branch.verdict, Branch.entry?, created]
    | false =>
      have kept : (if job.status = .pending then .pending else job.status) = job.status := by
        split <;> simp_all
      simp [Branch.settled, Branch.verdict, Branch.entry?, created, kept]

theorem addLog_eq_settled (a : Assignment) (t : Instant) (job : Job) :
    job.addLog cancelledTask a.cancelledMessage t = Branch.cancellation.settled a t job := by
  have kept : (if job.status = .pending then .pending else job.status) = job.status := by
    split <;> simp_all
  simp [Job.addLog, cancelledTask, Branch.settled, Branch.verdict, Branch.entry?, kept]

/-! ## The outcome -/

theorem workError?_completion (a : Assignment) (last : WorkEnd) :
    (Branch.completion last).workError? a = failure? a last := by
  cases last with
  | error text => rw [Branch.workError?, failure?, action_eq]
  | ok done => rfl

/-- The complaint of the store, if it has one. -/
def complaint? : Except Error Unit → Option Error
  | .ok () => none
  | .error e => some e

theorem report_followed (earlier : Option Error) (e : Error) :
    .error (followed earlier e) = report earlier (some e) := by
  cases earlier <;> rfl

theorem report_none (answer : Except Error Unit) : report none (complaint? answer) = answer := by
  cases answer <;> rfl

/-! ## The whole procedure -/

variable {σ : Type}

/-- Finalizing reads the record, looks at the clock and saves the settled record, and does nothing
else. -/
theorem finalize_run (env : Procedure.Surroundings σ) (s : σ) (a : Assignment) (b : Branch) :
    (finalize a b).run env s =
      match env.get s a.key with
      | (.error e, s) => (⟨none, report (b.workError? a) (some e)⟩, s)
      | (.ok job, s) =>
        let (t, s) := env.now s
        let (answer, s) := env.save s (b.settled a t job)
        (⟨some (b.settled a t job), report (b.workError? a) (complaint? answer)⟩, s) := by
  cases b with
  | completion last =>
    rw [workError?_completion, finalize, complete, Procedure.run]
    obtain ⟨read, s⟩ := env.get s a.key
    cases read with
    | error e => simp [report_followed]
    | ok job =>
      simp only [Procedure.run, completed_eq_settled]
      cases saved :
          (env.save (env.now s).2 ((Branch.completion last).settled a (env.now s).1 job)).1 with
      | error e => simp [complaint?, report_followed]
      | ok done =>
        simp only [complaint?, Procedure.run_done]
        cases failure? a last <;> rfl
  | cancellation =>
    rw [finalize, recordCancellation, Procedure.run]
    obtain ⟨read, s⟩ := env.get s a.key
    cases read with
    | error e => rfl
    | ok job =>
      simp only [Procedure.run, addLog_eq_settled, Branch.workError?, report_none]

/-! ## Jobs in memory -/

/-- Jobs in memory whose store may fail to read or to save. -/
def troubled (read? save? : Option Error) (now : Instant) : Procedure.Surroundings Memory where
  get m key :=
    match read? with
    | some e => (.error e, m)
    | none => ((Store.memory m).get key, m)
  save m job :=
    match save? with
    | some e => (.error e, m)
    | none => (.ok (), m.save job)
  now m := (now, m)
  newId m := (default, m)

theorem key_settled (b : Branch) (a : Assignment) (t : Instant) (job : Job) :
    (b.settled a t job).key = job.key := rfl

theorem get?_of_get {m : Memory} {key : JobKey} {job : Job}
    (read : (Store.memory m).get key = .ok job) : m.get? key = some job := by
  rw [Store.get] at read
  split at read
  next job' found =>
    cases read
    exact found
  · cases read

/-- **Finalizing does what its way says, also when the store fails.**  If the record cannot be read
again, or cannot be saved, the jobs are what they were.  Otherwise the record under the own key is the
one that was read, with the status and the log entry of the way that was taken, and no other record
is another.  The outcome names the error of the work and then that of the store; it is good if there
is neither. -/
theorem finalize_on_memory (m : Memory) (a : Assignment) (b : Branch) (read? save? : Option Error)
    (now : Instant) :
    let reload := ((troubled read? save? now).get m a.key).1
    let result := (finalize a b).run (troubled read? save? now) m
    (∀ e, reload = .error e →
      result = (⟨none, report (b.workError? a) (some e)⟩, m)) ∧
    (∀ job, reload = .ok job →
      m.get? a.key = some job ∧
      (∀ e, save? = some e →
        result = (⟨some (b.settled a now job), report (b.workError? a) (some e)⟩, m)) ∧
      (save? = none →
        result.1 = ⟨some (b.settled a now job), report (b.workError? a) none⟩ ∧
        ∀ key, result.2.get? key =
          if key = a.key then some (b.settled a now job) else m.get? key)) ∧
    (result.1.outcome = .ok () ↔
      b.workError? a = none ∧ (∃ job, reload = .ok job) ∧ save? = none) := by
  intro reload result
  have run : result = (finalize a b).run (troubled read? save? now) m := rfl
  rw [finalize_run] at run
  have unread : ((troubled read? save? now).get m a.key).2 = m := by
    cases read? <;> rfl
  have answers : (troubled read? save? now).get m a.key = (reload, m) := Prod.ext rfl unread
  rw [answers] at run
  cases found : reload with
  | error e =>
    rw [found] at run
    simp only at run
    refine ⟨fun e' eq => ?_, fun job eq => (nomatch eq), ?_⟩
    · cases eq
      exact run
    · simp [run, report_eq_ok_iff]
  | ok job =>
    rw [found] at run
    have stored : m.get? a.key = some job := by
      cases read? with
      | some e => simp [reload, troubled] at found
      | none => exact get?_of_get found
    refine ⟨fun e eq => (nomatch eq), fun job' eq => ?_, ?_⟩
    · cases eq
      refine ⟨stored, fun e fails => ?_, fun works => ?_⟩
      · subst fails
        exact run
      · subst works
        rw [run]
        refine ⟨rfl, fun key => ?_⟩
        have own : (b.settled a now job).key = a.key :=
          (key_settled b a now job).trans (Memory.key_of_get? stored)
        change (m.save (b.settled a now job)).get? key = _
        rw [Memory.get?_save, own]
    · cases save? with
      | some e => simp [run, troubled, complaint?, report_eq_ok_iff]
      | none => simp [run, troubled, complaint?, report_eq_ok_iff]

/-- An account. -/
def sampleAccount : AccountId := ⟨List.replicate 20 7, rfl⟩

/-- The failed work of a job that its call has created: the job becomes a failure and says why, unless
the store fails as well. -/
theorem sampleFailure_finalized :
    let job := Job.create ⟨.ofNat 4⟩ sampleAccount "demo" .epoch
    let m := Memory.empty.save job
    let a : Assignment := ⟨sampleAccount, ⟨.ofNat 4⟩, "demo", true⟩
    let b : Branch := .completion (.error "boom")
    let full := Error.other "full"
    ((troubled none none .epoch).get m a.key).1 = .ok job ∧
    (b.settled a .epoch job).status = .failed ∧
    (∀ key, ((finalize a b).run (troubled none none .epoch) m).2.get? key =
      if key = a.key then some (b.settled a .epoch job) else m.get? key) ∧
    (finalize a b).run (troubled none (some full) .epoch) m =
      (⟨some (b.settled a .epoch job), report (b.workError? a) (some full)⟩, m) := by
  intro job m a b full
  have works := (finalize_on_memory m a b none none .epoch).2.1 job rfl
  have fails := (finalize_on_memory m a b none (some full) .epoch).2.1 job rfl
  exact ⟨rfl, rfl, (works.2.2 rfl).2, fails.2.1 full rfl⟩

end JobNode.Manager
