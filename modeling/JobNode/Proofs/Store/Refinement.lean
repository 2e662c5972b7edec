import JobNode.Proofs.Store.Mirror
import JobNode.Store.Database

/-!
# The database answers as memory does

A database in a file is asked, closed, opened again and prepared again in any order.  While it is
open it answers every question as jobs in memory do that were given the same jobs, up to what the
records of the jobs show, and each answer is the last job saved under its key.

* `Memory.get?_ofJobs`: memory finds the last job saved under a key;
* `Memory.mem_list_iff`, `Memory.nodup_list`: it lists each job of an account once;
* `Database.Follows.next`: one step keeps a database and memory in step;
* `Database.answers_as_memory`: so does every sequence of steps.
-/

namespace JobNode

/-! ## Jobs in memory -/

namespace Memory

/-- The jobs that were saved one after another. -/
def ofJobs (jobs : List Job) : Memory := jobs.foldl save .empty

/-- The last job saved under a key. -/
def latest? (jobs : List Job) (key : JobKey) : Option Job :=
  (jobs.filter fun job => job.key = key).getLast?

theorem get?_ofJobs (jobs : List Job) (key : JobKey) :
    (ofJobs jobs).get? key = latest? jobs key := get?_foldl_save jobs .empty key

theorem mem_entries_iff {m : Memory} {key : JobKey} {job : Job} :
    (key, job) ∈ m.records.entries ↔ m.get? key = some job :=
  Keyed.mem_entries_iff

theorem mem_list_iff {m : Memory} {account : AccountId} {job : Job} :
    job ∈ m.list account ↔ job.account = account ∧ m.get? job.key = some job := by
  have sorted : job ∈ m.list account ↔
      job ∈ (m.records.entries.filter fun e => e.1.account = account).map (·.2) :=
    (List.mergeSort_perm _ _).mem_iff
  rw [sorted, List.mem_map]
  constructor
  · rintro ⟨⟨key, found⟩, mem, rfl⟩
    obtain ⟨there, own⟩ := List.mem_filter.1 mem
    have at_ := mem_entries_iff.1 there
    cases key_of_get? at_
    exact ⟨of_decide_eq_true own, at_⟩
  · rintro ⟨own, there⟩
    exact ⟨(job.key, job), List.mem_filter.2 ⟨mem_entries_iff.2 there, decide_eq_true own⟩, rfl⟩

theorem nodup_list (m : Memory) (account : AccountId) : ((m.list account).map Job.key).Nodup := by
  have sorted : ((m.list account).map Job.key).Perm
      (((m.records.entries.filter fun e => e.1.account = account).map (·.2)).map Job.key) :=
    (List.mergeSort_perm _ _).map _
  have keys : ((m.records.entries.filter fun e => e.1.account = account).map (·.2)).map Job.key =
      (m.records.entries.filter fun e => e.1.account = account).map (·.1) := by
    rw [List.map_map]
    refine List.map_congr_left fun e mem => ?_
    exact key_of_get? (mem_entries_iff.1 (List.mem_filter.1 mem).1)
  rw [sorted.nodup_iff, keys]
  exact m.records.distinct.sublist (List.filter_sublist.map _)

end Memory

/-! ## The life of a database -/

namespace Database

/-- What happens to a database. -/
inductive Event where
  | save (job : Job) (now : Instant)
  | get (key : JobKey)
  | list (account : AccountId)
  | close
  | reopen
  | migrate

/-- The database after a step; one that fails changes nothing. -/
def next (d : Database) : Event → Database
  | .save job now => (d.save job now).toOption.getD d
  | .get _ => d
  | .list _ => d
  | .close => d.close
  | .reopen => d.reopen
  | .migrate => d.migrate.toOption.getD d

/-- The database after steps. -/
def after (d : Database) (events : List Event) : Database := events.foldl next d

/-- The jobs that a step saves: none while the database is closed. -/
def savedBy (d : Database) : Event → List Job
  | .save job _ => if d.isOpen then [job] else []
  | _ => []

/-- The jobs that steps save. -/
def saved (d : Database) : List Event → List Job
  | [] => []
  | e :: rest => d.savedBy e ++ (d.next e).saved rest

/-- A new database after its scripts have run. -/
def fresh : Database := ⟨[createJobs.version], some .empty, true⟩

theorem migrate_blank : blank.migrate = .ok fresh := rfl

/-! ## One step -/

/-- The database was prepared, and its table is in step with jobs in memory. -/
structure Follows (d : Database) (m : Memory) : Prop where
  prepared : ∀ s ∈ scripts, s.version ∈ d.ledger
  table : ∃ jobs, d.jobs? = some jobs ∧ Mirrors jobs m

theorem follows_fresh : fresh.Follows .empty :=
  ⟨by simp [scripts, fresh], .empty, rfl, Mirrors.empty⟩

variable {d : Database} {m : Memory}

/-- Scripts that have run are passed over. -/
theorem foldl_applyScript (all : List Script) (prepared : ∀ s ∈ all, s.version ∈ d.ledger) :
    all.foldl applyScript d = d := by
  induction all with
  | nil => rfl
  | cons s rest ih =>
    have done : applyScript d s = d := if_pos (prepared s List.mem_cons_self)
    rw [List.foldl_cons, done]
    exact ih fun s mem => prepared s (List.mem_cons_of_mem _ mem)

namespace Follows

theorem migrate (follows : d.Follows m) (opened : d.isOpen = true) : d.migrate = .ok d := by
  rw [Database.migrate, if_pos opened, foldl_applyScript scripts follows.prepared]

theorem table_of_open (follows : d.Follows m) (opened : d.isOpen = true) :
    ∃ jobs, d.table = .ok jobs ∧ d.jobs? = some jobs ∧ Mirrors jobs m := by
  obtain ⟨jobs, made, mirrors⟩ := follows.table
  refine ⟨jobs, ?_, made, mirrors⟩
  rw [Database.table, if_pos opened, made]

theorem get (follows : d.Follows m) (opened : d.isOpen = true) (key : JobKey) :
    d.get key = ((Store.memory m).get key).map Job.written := by
  obtain ⟨jobs, there, -, mirrors⟩ := follows.table_of_open opened
  have found := mirrors.get? key
  simp only [Database.get, there, bind, Except.bind, Store.get, found]
  cases m.get? key <;> rfl

/-- The answer is that of memory itself, if the record of the job shows the job. -/
theorem get_eq_iff (follows : d.Follows m) (opened : d.isOpen = true) (key : JobKey) :
    d.get key = (Store.memory m).get key ↔ ∀ job, m.get? key = some job → job.Regular := by
  rw [follows.get opened key, Store.get]
  cases m.get? key with
  | none => simp [Except.map]
  | some job => simp [Except.map, Job.written_eq_self_iff]

theorem list (follows : d.Follows m) (opened : d.isOpen = true) (account : AccountId) :
    ∃ jobs, d.list account = .ok jobs ∧ jobs.Perm ((m.list account).map Job.written) := by
  obtain ⟨table, there, -, mirrors⟩ := follows.table_of_open opened
  obtain ⟨jobs, listed, same⟩ := mirrors.list account
  refine ⟨jobs, ?_, same⟩
  simp only [Database.list, there, bind, Except.bind, listed]

theorem save (follows : d.Follows m) (opened : d.isOpen = true) (job : Job) (now : Instant) :
    ∃ next, d.save job now = .ok next ∧ next.Follows (m.save job) := by
  obtain ⟨table, there, -, mirrors⟩ := follows.table_of_open opened
  refine ⟨{ d with jobs? := some (table.save job now) }, ?_, follows.prepared, _, rfl,
    mirrors.save job now⟩
  simp only [Database.save, there, bind, Except.bind]

end Follows

theorem table_of_closed (closed : d.isOpen = false) : d.table = .error Store.unavailable := by
  rw [table, if_neg (by simp [closed])]

/-- A step keeps the database in step with memory that is given the same job. -/
theorem Follows.next (follows : d.Follows m) (e : Event) :
    (d.next e).Follows ((d.savedBy e).foldl Memory.save m) := by
  cases e with
  | save job now =>
    cases opened : d.isOpen with
    | true =>
      obtain ⟨next, done, still⟩ := follows.save opened job now
      rw [Database.next, done, savedBy, if_pos opened]
      exact still
    | false =>
      have failed : d.save job now = .error Store.unavailable := by
        simp only [Database.save, table_of_closed opened, bind, Except.bind]
      rw [Database.next, failed, savedBy, if_neg (by simp [opened])]
      exact follows
  | get key => exact follows
  | list account => exact follows
  | close => exact ⟨follows.prepared, follows.table⟩
  | reopen => exact ⟨follows.prepared, follows.table⟩
  | migrate =>
    cases opened : d.isOpen with
    | true =>
      rw [Database.next, follows.migrate opened]
      exact follows
    | false =>
      have failed : d.migrate = .error notPrepared := if_neg (by simp [opened])
      rw [Database.next, failed]
      exact follows

theorem Follows.after (follows : d.Follows m) (events : List Event) :
    (d.after events).Follows ((d.saved events).foldl Memory.save m) := by
  induction events generalizing d m with
  | nil => exact follows
  | cons e rest ih =>
    rw [after, List.foldl_cons, saved, List.foldl_append]
    exact ih (follows.next e)

/-! ## Every sequence of steps -/

/-- **The database answers as memory does.**  After the scripts have run on a new database, and then any
sequence of saves, questions, closings, openings and runs of the scripts, the rows of the table hold
the records of the jobs in memory, each under its own key.  While it is open, the database finds under
each key what its record shows of the job that memory finds, or none for the same identifier, and
lists for each account what the records show of the jobs that memory lists: the last one saved under
each key, once.  These are the jobs themselves, unless a time of theirs has the fraction of a leap
second within a minute.  It takes every further job; closing and opening it again or running the
scripts again leaves it as it is.  While it is closed it answers nothing. -/
theorem answers_as_memory (events : List Event) :
    let d := fresh.after events
    let jobs := fresh.saved events
    let m := Memory.ofJobs jobs
    blank.migrate = .ok fresh ∧
    (∃ t, d.jobs? = some t ∧ Mirrors t m) ∧
    (d.isOpen = true →
      (∀ key, d.get key = ((Store.memory m).get key).map Job.written ∧
        (d.get key = (Store.memory m).get key ↔
          ∀ job, Memory.latest? jobs key = some job → job.Regular)) ∧
      (∀ account, ∃ found, d.list account = .ok found ∧
        found.Perm ((m.list account).map Job.written) ∧ (found.map Job.key).Nodup ∧
        (∀ job, job ∈ found ↔ job.account = account ∧
          ∃ last, Memory.latest? jobs job.key = some last ∧ job = last.written) ∧
        ((∀ job ∈ m.list account, job.Regular) → found.Perm (m.list account))) ∧
      (∀ job now, ∃ next, d.save job now = .ok next) ∧
      d.close.reopen = d ∧ d.migrate = .ok d) ∧
    (d.isOpen = false →
      (∀ key, d.get key = .error Store.unavailable) ∧
      (∀ account, d.list account = .error Store.unavailable) ∧
      ∀ job now, d.save job now = .error Store.unavailable) := by
  intro d jobs m
  have follows : d.Follows m := follows_fresh.after events
  have latest (key : JobKey) : m.get? key = Memory.latest? jobs key := Memory.get?_ofJobs jobs key
  refine ⟨migrate_blank, follows.table, fun opened => ⟨fun key => ?_, fun account => ?_,
    fun job now => ?_, ?_, follows.migrate opened⟩, fun closed => ?_⟩
  · rw [← latest]
    exact ⟨follows.get opened key, follows.get_eq_iff opened key⟩
  · obtain ⟨found, listed, same⟩ := follows.list opened account
    refine ⟨found, listed, same, ?_, fun job => ?_, fun regular => ?_⟩
    · have keys := same.map Job.key
      rw [List.map_map] at keys
      exact keys.nodup_iff.2 (Memory.nodup_list m account)
    · rw [same.mem_iff, List.mem_map, ← latest]
      simp only [Memory.mem_list_iff]
      constructor
      · rintro ⟨last, ⟨own, there⟩, rfl⟩
        exact ⟨own, last, there, rfl⟩
      · rintro ⟨own, last, there, rfl⟩
        exact ⟨last, ⟨own, there⟩, rfl⟩
    · have shown : (m.list account).map Job.written = m.list account :=
        (List.map_congr_left fun job mem => Job.written_eq_self_iff.2 (regular job mem)).trans
          (List.map_id _)
      exact shown ▸ same
  · obtain ⟨next, done, -⟩ := follows.save opened job now
    exact ⟨next, done⟩
  · rw [reopen, close, ← opened]
  · have nothing := table_of_closed closed
    refine ⟨fun key => ?_, fun account => ?_, fun job now => ?_⟩
    · simp only [Database.get, nothing, bind, Except.bind]
    · simp only [Database.list, nothing, bind, Except.bind]
    · simp only [Database.save, nothing, bind, Except.bind]

/-- A job created within a minute, in a leap second as it were, is found as another one; and while
the database is closed it is not found, when memory finds the job itself. -/
theorem sampleLeap_differs :
    (Store.memory (.ofJobs [.sampleLeap])).get Job.sampleLeap.key = .ok .sampleLeap ∧
      (fresh.after [.save .sampleLeap .epoch]).get Job.sampleLeap.key = .ok .sampleLater ∧
      Job.sampleLater ≠ .sampleLeap ∧
      (fresh.after [.save .sampleLeap .epoch, .close]).get Job.sampleLeap.key =
        .error Store.unavailable := by
  obtain ⟨shown, other⟩ := Job.written_sampleLeap
  have found : (Store.memory (.ofJobs [.sampleLeap])).get Job.sampleLeap.key = .ok .sampleLeap := rfl
  refine ⟨found, ?_, other, rfl⟩
  have follows := follows_fresh.after [.save .sampleLeap .epoch]
  exact (follows.get rfl Job.sampleLeap.key).trans (congrArg Except.ok shown)

end Database

end JobNode
