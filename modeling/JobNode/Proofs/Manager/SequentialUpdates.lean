import JobNode.Proofs.Manager.Finalization

/-!
# Updates of a job, one after the other

An update reads the record of a job, changes it and saves it, and the store may fail at either
access.  Updates that are carried out one after the other add up: the record at the end is the one
at the start with every update made that went well, in order, and the others might as well not have
been asked for.

* `Attempt.run_eq`: one update, which either is made or changes nothing.
* `afterAll`: the record after updates; `afterAll_eq` says what has become of its parts.
* `runAll_eq`: attempts one after the other, which come to those that go well.
* `updates_add_up`: what callers are told, and what the record and a poll say afterwards.
-/

namespace JobNode.Manager

/-! ## Single updates -/

/-- What a caller asks to have changed. -/
inductive Update where
  /-- The status of a task, with a message for the log. -/
  | task (name : String) (status : Status) (message : String)
  | value (name : String) (bytes : List UInt8)
  deriving DecidableEq

namespace Update

/-- What the manager does about it. -/
def procedure (key : JobKey) : Update → Procedure (Except Error Unit)
  | task name status message => updateTask key status name message
  | value name bytes => updateValue key name bytes

/-- The record after the update. -/
def apply (t : Instant) (job : Job) : Update → Job
  | task name status message => (job.setTaskStatus name status).addLog name message t
  | value name bytes => job.setValue name bytes

/-- The log entry of the update, if it has one. -/
def entry? (t : Instant) : Update → Option LogEntry
  | task name _ message => some ⟨name, message, t⟩
  | value _ _ => none

/-- The status that the update records for a task, if it does. -/
def status? (name : String) : Update → Option Status
  | task own status _ => if own = name then some status else none
  | value _ _ => none

/-- What the update stores under a key, if it does. -/
def stored? (name : String) : Update → Option StoredValue
  | task _ _ _ => none
  | value own bytes => if own = name then some ⟨own, bytes⟩ else none

variable (u : Update) (t : Instant) (job : Job)

theorem procedure_eq (key : JobKey) :
    u.procedure key = change key fun t job => u.apply t job := by
  cases u <;> rfl

theorem key_apply : (u.apply t job).key = job.key := by
  cases u <;> rfl

/-- An update may change the statuses of tasks and the values, adds its entry to the log, and changes
nothing else. -/
theorem apply_eq :
    ∃ taskStatus values, u.apply t job =
        { job with taskStatus, values, logs := job.logs ++ (u.entry? t).toList } ∧
      (∀ name, taskStatus.get? name = (u.status? name).or (job.taskStatus.get? name)) ∧
      ∀ name, values.get? name = (u.stored? name).or (job.values.get? name) := by
  cases u with
  | task own status message =>
    refine ⟨job.taskStatus.insert own status, job.values, rfl, fun name => ?_, fun name => rfl⟩
    by_cases same : own = name
    · subst same
      simp [status?]
    · rw [Dict.get?_insert_of_ne _ (Ne.symm same)]
      simp [status?, same]
  | value own bytes =>
    refine ⟨job.taskStatus, job.values.insert own ⟨own, bytes⟩, ?_, fun name => rfl, fun name => ?_⟩
    · simp [apply, entry?, Job.setValue]
    · by_cases same : own = name
      · subst same
        simp [stored?]
      · rw [Dict.get?_insert_of_ne _ (Ne.symm same)]
        simp [stored?, same]

end Update

/-! ## Attempts -/

/-- An update that is attempted at some time, and how the store fails meanwhile, if it does. -/
structure Attempt where
  update : Update
  now : Instant
  read? : Option Error
  save? : Option Error

namespace Attempt

/-- The first failure of the store. -/
def fault? (x : Attempt) : Option Error := x.read?.or x.save?

/-- What the caller is told, if there is such a job. -/
def answer (x : Attempt) : Except Error Unit :=
  match x.fault? with
  | some e => .error e
  | none => .ok ()

/-- Carry the attempt out. -/
def run (key : JobKey) (x : Attempt) (m : Memory) : Except Error Unit × Memory :=
  (x.update.procedure key).run (troubled x.read? x.save? x.now) m

/-- The record after the attempt: what it was if the store fails. -/
def outcome (x : Attempt) (job : Job) : Job :=
  if x.fault?.isNone then x.update.apply x.now job else job

variable (x : Attempt) {m : Memory} {key : JobKey} {job : Job}

/-- An attempt either makes its update or changes nothing. -/
theorem run_eq (stored : m.get? key = some job) :
    x.run key m =
      (x.answer, if x.fault?.isNone then m.save (x.update.apply x.now job) else m) := by
  obtain ⟨update, now, read?, save?⟩ := x
  have read : (Store.memory m).get key = .ok job := by rw [Store.get, stored]
  cases read? with
  | some e => simp [run, Update.procedure_eq, change, Procedure.run, troubled, answer, fault?]
  | none =>
    cases save? with
    | some e =>
      simp [run, Update.procedure_eq, change, Procedure.run, troubled, read, answer, fault?]
    | none =>
      simp [run, Update.procedure_eq, change, Procedure.run, troubled, read, answer, fault?]

theorem memory_of_fault {e : Error} (fault : x.fault? = some e) (stored : m.get? key = some job) :
    (x.run key m).2 = m := by
  rw [x.run_eq stored, fault]
  rfl

/-- After an attempt there is the record that it comes to, and all others are what they were. -/
theorem get?_run (stored : m.get? key = some job) (other : JobKey) :
    (x.run key m).2.get? other = if other = key then some (x.outcome job) else m.get? other := by
  have own : (x.update.apply x.now job).key = key :=
    (x.update.key_apply x.now job).trans (Memory.key_of_get? stored)
  rw [x.run_eq stored, outcome]
  cases x.fault? with
  | none =>
    change (m.save _).get? other = _
    rw [Memory.get?_save, own]
    rfl
  | some e =>
    by_cases same : other = key
    · subst same
      rw [if_pos rfl]
      exact stored
    · rw [if_neg same]
      rfl

end Attempt

/-! ## One after the other -/

/-- Carry attempts out one after the other; what their callers are told, and the jobs afterwards. -/
def runAll (key : JobKey) : List Attempt → Memory → List (Except Error Unit) × Memory
  | [], m => ([], m)
  | x :: rest, m =>
    let (answer, m) := x.run key m
    let (answers, m) := runAll key rest m
    (answer :: answers, m)

/-- The record after the updates of attempts that go well. -/
def afterAll (made : List Attempt) (job : Job) : Job :=
  made.foldl (fun job x => x.update.apply x.now job) job

/-- The last of some answers, if there is one. -/
theorem getLast?_filterMap_cons {α β : Type} (f : α → Option β) (a : α) (rest : List α)
    (old : Option β) :
    ((a :: rest).filterMap f).getLast?.or old =
      (rest.filterMap f).getLast?.or ((f a).or old) := by
  cases first : f a with
  | none => simp [first]
  | some b =>
    rw [List.filterMap_cons, first]
    simp only [List.getLast?_cons]
    cases (rest.filterMap f).getLast? <;> rfl

/-- Updates add their entries to the log in order.  Each task has the status and each key the value
that the last of them gives, and all else is what it was. -/
theorem afterAll_eq (made : List Attempt) (job : Job) :
    ∃ taskStatus values, afterAll made job =
        { job with
          taskStatus, values
          logs := job.logs ++ made.filterMap fun x => x.update.entry? x.now } ∧
      (∀ name, taskStatus.get? name =
        (made.filterMap fun x => x.update.status? name).getLast?.or (job.taskStatus.get? name)) ∧
      ∀ name, values.get? name =
        (made.filterMap fun x => x.update.stored? name).getLast?.or (job.values.get? name) := by
  induction made generalizing job with
  | nil => exact ⟨job.taskStatus, job.values, by simp [afterAll], fun name => rfl, fun name => rfl⟩
  | cons x rest ih =>
    obtain ⟨taskStatus, values, first, status, stored⟩ := x.update.apply_eq x.now job
    obtain ⟨taskStatus', values', later, status', stored'⟩ := ih (x.update.apply x.now job)
    refine ⟨taskStatus', values', ?_, fun name => ?_, fun name => ?_⟩
    · change afterAll rest (x.update.apply x.now job) = _
      rw [later, first]
      cases entry : x.update.entry? x.now <;> simp [entry]
    · rw [getLast?_filterMap_cons, status', first, status]
    · rw [getLast?_filterMap_cons, stored', first, stored]

/-- Attempts one after the other come to what those come to that go well. -/
theorem runAll_eq (attempts : List Attempt) {m : Memory} {key : JobKey} {job : Job}
    (stored : m.get? key = some job) :
    (runAll key attempts m).1 = attempts.map Attempt.answer ∧
      ∀ other, (runAll key attempts m).2.get? other =
        if other = key then some (afterAll (attempts.filter (·.fault?.isNone)) job)
        else m.get? other := by
  induction attempts generalizing m job with
  | nil =>
    refine ⟨rfl, fun other => ?_⟩
    split
    next same => exact same ▸ stored
    · rfl
  | cons x rest ih =>
    have next : (x.run key m).2.get? key = some (x.outcome job) := by
      rw [x.get?_run stored, if_pos rfl]
    obtain ⟨answers, found⟩ := ih next
    refine ⟨?_, fun other => ?_⟩
    · change (x.run key m).1 :: (runAll key rest (x.run key m).2).1 = _
      rw [answers, x.run_eq stored]
      rfl
    · change (runAll key rest (x.run key m).2).2.get? other = _
      rw [found, x.get?_run stored]
      by_cases same : other = key
      · rw [if_pos same, if_pos same]
        cases fault : x.fault? with
        | none => simp [Attempt.outcome, afterAll, fault]
        | some e => simp [Attempt.outcome, afterAll, fault]
      · rw [if_neg same, if_neg same, if_neg same]

theorem runAll_append (key : JobKey) (before after : List Attempt) (m : Memory) :
    (runAll key (before ++ after) m).2 = (runAll key after (runAll key before m).2).2 := by
  induction before generalizing m with
  | nil => rfl
  | cons x rest ih => exact ih (x.run key m).2

/-- **Updates one after the other add up, the failed ones aside.**  Let updates of one job be
attempted one after the other, and let the store fail as it may.  Whoever asks for one is told the
first failure of the store, if there is one, and then nothing has changed.  At the end the record is
the one at the start with every update that went well, in order: the log has one more entry for each
of those of a task, each task has the status and each key the value that the last of them gives, and
all else is what it was, as are all other records.  A caller that then polls the job is told the
message and the time of the last entry of the log, or an empty message and the time of creation where
there is none. -/
theorem updates_add_up (m : Memory) (key : JobKey) (job : Job) (stored : m.get? key = some job)
    (attempts : List Attempt) (now : Instant) :
    let made := attempts.filter (·.fault?.isNone)
    let result := runAll key attempts m
    let logs := job.logs ++ made.filterMap fun x => x.update.entry? x.now
    result.1 = attempts.map Attempt.answer ∧
    (∀ before x after, attempts = before ++ x :: after → x.fault?.isSome →
      (runAll key (before ++ [x]) m).2 = (runAll key before m).2) ∧
    (∀ other ≠ key, result.2.get? other = m.get? other) ∧
    ∃ taskStatus values,
      result.2.get? key = some { job with taskStatus, values, logs } ∧
      { job with taskStatus, values, logs } =
        made.foldl (fun job x => x.update.apply x.now job) job ∧
      (∀ name, taskStatus.get? name =
        (made.filterMap fun x => x.update.status? name).getLast?.or (job.taskStatus.get? name)) ∧
      (∀ name, values.get? name =
        (made.filterMap fun x => x.update.stored? name).getLast?.or (job.values.get? name)) ∧
      (getStatus key).run (troubled none none now) result.2 =
        (.ok
          { jobId := job.id
            status := job.status
            message := (logs.getLast?.map (·.message)).getD ""
            lastUpdated := (logs.getLast?.map (·.createdAt)).getD job.createdAt },
          result.2) := by
  intro made result logs
  obtain ⟨answers, found⟩ := runAll_eq attempts stored
  obtain ⟨taskStatus, values, record, status, values_eq⟩ := afterAll_eq made job
  have last : result.2.get? key = some { job with taskStatus, values, logs } := by
    rw [found, if_pos rfl, record]
  refine ⟨answers, fun before x after split fails => ?_, fun other ne => ?_, taskStatus, values, last,
    record.symm, status, values_eq, ?_⟩
  · obtain ⟨e, fault⟩ := Option.isSome_iff_exists.1 fails
    have there : (runAll key before m).2.get? key =
        some (afterAll (before.filter (·.fault?.isNone)) job) := by
      rw [(runAll_eq before stored).2, if_pos rfl]
    rw [runAll_append]
    exact x.memory_of_fault fault there
  · rw [found, if_neg ne]
  · have read : (Store.memory result.2).get key = .ok { job with taskStatus, values, logs } := by
      rw [Store.get, last]
    simp only [getStatus, Procedure.run, troubled, read, Except.map, Job.statusReport, Job.lastMessage,
      Job.lastLog?]
    cases logs.getLast? <;> rfl

/-- A status and two values for one key, with a full store and a store that is away in between. -/
def sampleAttempts : List Attempt :=
  [⟨.task "sign" .success "signed", .epoch, none, none⟩,
    ⟨.value "tx" [1], .epoch, none, none⟩,
    ⟨.task "sign" .failed "late", .epoch, none, some (.other "full")⟩,
    ⟨.value "tx" [2, 3], .epoch, none, none⟩,
    ⟨.value "tx" [4], .epoch, some (.other "away"), some (.other "full")⟩]

theorem sampleAttempts_add_up :
    let job := Job.create ⟨.ofNat 4⟩ sampleAccount "demo" .epoch
    let result := runAll job.key sampleAttempts (Memory.empty.save job)
    result.1 = [.ok (), .ok (), .error (.other "full"), .ok (), .error (.other "away")] ∧
    ∃ last, result.2.get? job.key = some last ∧ last.logs = [⟨"sign", "signed", .epoch⟩] ∧
      last.taskStatus.get? "sign" = some .success ∧ last.value? "tx" = some [2, 3] := by
  intro job result
  obtain ⟨answers, -, -, taskStatus, values, last, -, status, stored, -⟩ :=
    updates_add_up (Memory.empty.save job) job.key job (Memory.get?_save_self _ _) sampleAttempts
      .epoch
  refine ⟨answers, _, last, rfl, ?_, ?_⟩
  · exact status "sign"
  · rw [Job.value?, stored "tx"]
    rfl

end JobNode.Manager
