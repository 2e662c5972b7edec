import JobNode.Proofs.Manager.LostUpdates
import JobNode.Proofs.Store.Refinement

/-!
# Columns beside the record

A row says some things about its job twice, in the record and in columns of its own.  An insertion
writes all columns and an update all but the key and the time of creation, so what the columns say
has to be kept through every save.

* `Row.Describes`: the columns of a row say of a job what its record says.
* `Table.Files`: each row describes the last job saved under its key, and keeps the time of creation
  of the first; `Table.Files.save` is one save, `Table.Files.saveAll` any number of them.
* `Database.files_after`: a database makes its table by saves only.
* `Manager.Traffic.keepsCreation_of_run`: a manager saves every job with the time of creation it had.
* `Database.columns_of_record`: the rows of every database.
-/

namespace JobNode

/-! ## Jobs saved under a key -/

namespace Memory

variable {jobs : List Job} {job : Job} {key : JobKey}

/-- The first job saved under a key. -/
def first? (jobs : List Job) (key : JobKey) : Option Job :=
  (jobs.filter fun job => job.key = key).head?

theorem latest?_concat_self : latest? (jobs ++ [job]) job.key = some job := by simp [latest?]

theorem latest?_concat_of_ne (ne : job.key ≠ key) :
    latest? (jobs ++ [job]) key = latest? jobs key := by simp [latest?, ne]

theorem first?_concat {first : Job} (found : first? jobs key = some first) (job : Job) :
    first? (jobs ++ [job]) key = some first := by
  rw [first?] at found ⊢
  rw [List.filter_append, List.head?_append, found, Option.some_or]

theorem first?_concat_new (new : ∀ old ∈ jobs, old.key ≠ job.key) :
    first? (jobs ++ [job]) job.key = some job := by
  have none : (jobs.filter fun old => old.key = job.key) = [] :=
    List.filter_eq_nil_iff.2 fun old mem => by simpa using new old mem
  rw [first?, List.filter_append, none]
  simp

/-- The jobs saved under a key keep the time of creation from one save to the next. -/
def KeepsCreation (jobs : List Job) (key : JobKey) : Prop :=
  (jobs.filter fun job => job.key = key).IsChain fun job next => next.createdAt = job.createdAt

theorem createdAt_of_chain {first last : Job}
    (chain : jobs.IsChain fun job next => next.createdAt = job.createdAt)
    (head : jobs.head? = some first) (end_ : jobs.getLast? = some last) :
    last.createdAt = first.createdAt := by
  induction jobs generalizing first with
  | nil => cases head
  | cons job rest ih =>
    cases head
    cases rest with
    | nil =>
      cases end_
      rfl
    | cons next rest =>
      obtain ⟨kept, chain⟩ := List.isChain_cons_cons.1 chain
      rw [List.getLast?_cons_cons] at end_
      exact (ih chain rfl end_).trans kept

/-- The last one then has the time of creation of the first. -/
theorem KeepsCreation.latest_eq {first : Job} (keeps : KeepsCreation jobs key)
    (at_ : first? jobs key = some first) (last : latest? jobs key = some job) :
    job.createdAt = first.createdAt :=
  createdAt_of_chain keeps at_ last

end Memory

/-! ## Rows -/

/-- The columns of a row say of a job what its record says. -/
structure Row.Describes (row : Row) (job : Job) : Prop where
  record : row.job = .ok job
  accountId : row.accountId = job.account.toText
  jobId : row.jobId = job.id.toText
  description : row.description = job.description
  status : row.status = job.status.toText

namespace Row.Describes

variable {row : Row} {old job : Job}

theorem key_eq (describes : row.Describes job) : row.key = job.key.texts := by
  rw [Row.key, describes.accountId, describes.jobId]
  rfl

theorem ofJob (job : Job) (now : Instant) : (Row.ofJob job now).Describes job.written :=
  ⟨Row.job_of_data rfl, rfl, rfl, rfl, rfl⟩

/-- An update of the row of a job describes the job that is saved, whose key the row has already. -/
theorem update (describes : row.Describes old) (same : old.key = job.key) (now : Instant) :
    (row.update (Row.ofJob job now)).Describes job.written where
  record := Row.job_of_data rfl
  accountId := describes.accountId.trans (congrArg (·.account.toText) same)
  jobId := describes.jobId.trans (congrArg (·.id.toText) same)
  description := rfl
  status := rfl

end Row.Describes

/-- A row describes the last job saved under its key, as its record shows it, and keeps the time of
creation of the first. -/
structure Row.Files (row : Row) (jobs : List Job) (job : Job) : Prop where
  describes : row.Describes job.written
  latest : Memory.latest? jobs job.key = some job
  created : ∃ first, Memory.first? jobs job.key = some first ∧
    row.createdAt = first.createdAt.toMicrosText

/-- Where saves keep the time of creation, it is the time in the record. -/
theorem Row.Files.createdAt_eq {row : Row} {jobs : List Job} {job : Job}
    (files : row.Files jobs job) (keeps : Memory.KeepsCreation jobs job.key) :
    row.createdAt = job.written.createdAt.toMicrosText := by
  obtain ⟨first, found, written⟩ := files.created
  have shown : job.written.createdAt.toMicrosText = job.createdAt.toMicrosText :=
    job.createdAt.toMicrosText_written
  rw [written, shown, keeps.latest_eq found files.latest]

/-! ## Tables -/

namespace Table

variable {t : Table} {rows : List Row} {row r : Row} {jobs : List Job} {k : String × String}

/-- A row after an upsert is new, or an old one that was updated, or one with another key. -/
theorem mem_upsertRow (distinct : (rows.map Row.key).Nodup) (mem : r ∈ upsertRow row rows) :
    (r = row ∧ row.key ∉ rows.map Row.key) ∨
      (∃ old ∈ rows, old.key = row.key ∧ r = old.update row) ∨ (r ∈ rows ∧ r.key ≠ row.key) := by
  induction rows with
  | nil => exact .inl ⟨List.mem_singleton.1 mem, by simp⟩
  | cons first rest ih =>
    obtain ⟨alone, later⟩ := List.nodup_cons.1 distinct
    rw [upsertRow] at mem
    split at mem
    next own =>
      rcases List.mem_cons.1 mem with rfl | mem
      · exact .inr (.inl ⟨first, List.mem_cons_self, own, rfl⟩)
      · refine .inr (.inr ⟨List.mem_cons_of_mem _ mem, fun same => alone ?_⟩)
        rw [own, ← same]
        exact List.mem_map_of_mem mem
    next other =>
      rcases List.mem_cons.1 mem with rfl | mem
      · exact .inr (.inr ⟨List.mem_cons_self, other⟩)
      · rcases ih later mem with ⟨rfl, new⟩ | ⟨old, there, own, rfl⟩ | ⟨there, ne⟩
        · exact .inl ⟨rfl, fun known => (List.mem_cons.1 known).elim (Ne.symm other) new⟩
        · exact .inr (.inl ⟨old, List.mem_cons_of_mem _ there, own, rfl⟩)
        · exact .inr (.inr ⟨List.mem_cons_of_mem _ there, ne⟩)

theorem mem_keys_upsertRow_iff :
    k ∈ (upsertRow row rows).map Row.key ↔ k = row.key ∨ k ∈ rows.map Row.key := by
  induction rows with
  | nil => simp [upsertRow]
  | cons first rest ih =>
    rw [upsertRow]
    split
    next own => simp [key_update, own]
    next =>
      rw [List.map_cons, List.mem_cons, ih, List.map_cons, List.mem_cons]
      exact or_left_comm

/-- Each row files the jobs saved under its key, and every job that was saved has a row. -/
structure Files (t : Table) (jobs : List Job) : Prop where
  rows : ∀ row ∈ t.rows, ∃ job, row.Files jobs job
  keys : ∀ key : JobKey, key.texts ∈ t.rows.map Row.key ↔ ∃ job ∈ jobs, job.key = key

theorem files_empty : Files .empty [] where
  rows _ mem := nomatch mem
  keys key := by simp [empty]

/-- A save inserts the row of a job or updates it, and touches no other row. -/
theorem Files.save (files : t.Files jobs) (job : Job) (now : Instant) :
    (t.save job now).Files (jobs ++ [job]) := by
  refine ⟨fun row mem => ?_, fun key => ?_⟩
  · rcases mem_upsertRow t.distinct mem with ⟨rfl, new⟩ | ⟨old, there, same, rfl⟩ | ⟨there, ne⟩
    · refine ⟨job, .ofJob job now, Memory.latest?_concat_self, job,
        Memory.first?_concat_new fun earlier saved own => new ?_, rfl⟩
      exact (files.keys job.key).2 ⟨earlier, saved, own⟩
    · obtain ⟨earlier, describes, latest, first, found, created⟩ := files.rows old there
      have own : earlier.key = job.key := by
        rw [← JobKey.texts_inj, ← earlier.key_written, ← describes.key_eq, same]
        rfl
      refine ⟨job, describes.update own now, Memory.latest?_concat_self, first, ?_, created⟩
      rw [← own]
      exact Memory.first?_concat found job
    · obtain ⟨other, describes, latest, first, found, created⟩ := files.rows row there
      have apart : job.key ≠ other.key := by
        intro own
        refine ne ?_
        rw [describes.key_eq, other.key_written, ← own]
        rfl
      refine ⟨other, describes, ?_, first, Memory.first?_concat found job, created⟩
      rw [Memory.latest?_concat_of_ne apart]
      exact latest
  · have own : (Row.ofJob job now).key = job.key.texts := rfl
    change key.texts ∈ (upsertRow (Row.ofJob job now) t.rows).map Row.key ↔ _
    rw [mem_keys_upsertRow_iff, own, JobKey.texts_inj, files.keys key]
    simp [or_comm, or_and_right, exists_or, eq_comm]

theorem Files.saveAll (files : t.Files jobs) (saved : List (Job × Instant)) :
    (saved.foldl (fun t entry => t.save entry.1 entry.2) t).Files (jobs ++ saved.map (·.1)) := by
  induction saved generalizing t jobs with
  | nil => simpa using files
  | cons entry rest ih => simpa using ih (files.save entry.1 entry.2)

end Table

/-! ## Managers -/

namespace Manager.Traffic

/-- A manager that starts without jobs saves every job with the time of creation it had before. -/
theorem keepsCreation_of_run {n : Nat} {events : List Event} {s : Traffic}
    (run : (create .empty n).run? events = some s) (ids : NewIds .empty events) (key : JobKey) :
    Memory.KeepsCreation
      (Procedure.saves (allExchanges ((create .empty n).history events))) key := by
  -- every version has the time of creation of the first
  have same : ∀ job ∈ versions .empty key ((create .empty n).history events),
      ∀ first ∈ (versions .empty key ((create .empty n).history events)).head?,
        job.createdAt = first.createdAt := by
    refine (stands_of_run run ids key).forall_mem fun past job later split same fits first at_ => ?_
    rcases fits with ⟨rfl, -⟩ | ⟨old, member, continues⟩
    · rw [split] at at_
      cases at_
      rfl
    · exact continues.createdAt.trans (same old member first at_)
  change List.IsChain _ (versions .empty key _)
  refine List.Pairwise.isChain (List.pairwise_of_forall_mem_list fun job mem next later => ?_)
  obtain ⟨first, at_⟩ := Option.isSome_iff_exists.1 (List.isSome_head?.2 (List.ne_nil_of_mem mem))
  rw [same job mem first at_, same next later first at_]

end Manager.Traffic

/-! ## Databases -/

namespace Database

variable {d : Database} {m : Memory} {t : Table}

/-- A step of a prepared database makes its table by saves. -/
theorem jobs?_next (follows : d.Follows m) (there : d.jobs? = some t) (e : Event) :
    ∃ saved : List (Job × Instant), saved.map (·.1) = d.savedBy e ∧
      (d.next e).jobs? = some (saved.foldl (fun t entry => t.save entry.1 entry.2) t) := by
  cases e with
  | save job now =>
    cases opened : d.isOpen with
    | true =>
      obtain ⟨next, done, -⟩ := follows.save opened job now
      have table : d.table = .ok t := by rw [Database.table, if_pos opened, there]
      refine ⟨[(job, now)], by simp [savedBy, opened], ?_⟩
      simp [Database.next, Database.save, table, bind, Except.bind, Except.toOption]
    | false =>
      refine ⟨[], by simp [savedBy, opened], ?_⟩
      simp [Database.next, Database.save, table_of_closed opened, bind, Except.bind,
        Except.toOption, there]
  | get key => exact ⟨[], rfl, there⟩
  | list account => exact ⟨[], rfl, there⟩
  | close => exact ⟨[], rfl, there⟩
  | reopen => exact ⟨[], rfl, there⟩
  | migrate =>
    cases opened : d.isOpen with
    | true =>
      rw [Database.next, follows.migrate opened]
      exact ⟨[], rfl, there⟩
    | false =>
      have failed : d.migrate = .error notPrepared := if_neg (by simp [opened])
      rw [Database.next, failed]
      exact ⟨[], rfl, there⟩

theorem files_after (follows : d.Follows m) {jobs : List Job} (there : d.jobs? = some t)
    (files : t.Files jobs) (events : List Event) :
    ∃ t', (d.after events).jobs? = some t' ∧ t'.Files (jobs ++ d.saved events) := by
  induction events generalizing d m t jobs with
  | nil => exact ⟨t, there, by simpa [saved] using files⟩
  | cons e rest ih =>
    obtain ⟨now, same, made⟩ := jobs?_next follows there e
    rw [after, List.foldl_cons, saved, ← List.append_assoc, ← same]
    exact ih (follows.next e) made (files.saveAll now)

/-- **The columns of a row agree with its record.**  After any sequence of saves, with the database
closed, opened and prepared again in between, there is one row for each key that was saved.  Its
columns say of the job in its record what the record says, and that is the last job saved under the
key.  The time of creation is that of the first job; and that is the same if the saves of the key keep
it, as they do where a manager saves the jobs. -/
theorem columns_of_record (events : List Event) :
    let jobs := fresh.saved events
    ∃ t, (fresh.after events).jobs? = some t ∧ (t.rows.map Row.key).Nodup ∧
      (∀ key : JobKey, key.texts ∈ t.rows.map Row.key ↔ ∃ job ∈ jobs, job.key = key) ∧
      (∀ row ∈ t.rows, ∃ job, row.Files jobs job ∧
        (Memory.KeepsCreation jobs job.key →
          row.createdAt = job.written.createdAt.toMicrosText)) ∧
      ∀ n traffic s, (Manager.Traffic.create .empty n).run? traffic = some s →
        Manager.Traffic.NewIds .empty traffic →
        jobs = Procedure.saves (Manager.Traffic.allExchanges
          ((Manager.Traffic.create .empty n).history traffic)) →
        ∀ row ∈ t.rows, ∃ job, row.Describes job ∧
          row.createdAt = job.createdAt.toMicrosText := by
  intro jobs
  obtain ⟨t, made, files⟩ := files_after follows_fresh rfl Table.files_empty events
  rw [List.nil_append] at files
  refine ⟨t, made, t.keys_nodup, files.keys, fun row mem => ?_,
    fun n traffic s run ids same row mem => ?_⟩
  · obtain ⟨job, filed⟩ := files.rows row mem
    exact ⟨job, filed, filed.createdAt_eq⟩
  · obtain ⟨job, filed⟩ := files.rows row mem
    have keeps : Memory.KeepsCreation jobs job.key := by
      rw [same]
      exact Manager.Traffic.keepsCreation_of_run run ids job.key
    exact ⟨job.written, filed.describes, filed.createdAt_eq keeps⟩

/-- A job that is saved again once it has ended, with another one saved in between. -/
def sampleSaves : List Event :=
  let job := Job.create ⟨.ofNat 3⟩ .zero "mint" .epoch
  [.save job .epoch, .close, .reopen, .save (.create ⟨.ofNat 4⟩ .zero "sign" .epoch) .epoch, .migrate,
    .save ({ job with status := .success }.addLog "mint" "minted" .epoch) .epoch]

theorem sampleSaves_columns :
    ∃ t, (fresh.after sampleSaves).jobs? = some t ∧
      JobKey.texts ⟨.zero, ⟨.ofNat 3⟩⟩ ∈ t.rows.map Row.key ∧
      ∀ row ∈ t.rows, ∃ job, row.Describes job ∧ row.createdAt = job.createdAt.toMicrosText := by
  obtain ⟨t, made, -, keys, rows, -⟩ := columns_of_record sampleSaves
  have young : ∀ job ∈ fresh.saved sampleSaves, job.createdAt = .epoch := by
    intro job mem
    change job ∈ [_, _, _] at mem
    simp only [List.mem_cons, List.not_mem_nil, or_false] at mem
    rcases mem with rfl | rfl | rfl <;> rfl
  have keeps (key : JobKey) : Memory.KeepsCreation (fresh.saved sampleSaves) key := by
    refine List.Pairwise.isChain (List.pairwise_of_forall_mem_list fun job mem next later => ?_)
    rw [young job (List.mem_filter.1 mem).1, young next (List.mem_filter.1 later).1]
  refine ⟨t, made, (keys _).2 ⟨_, List.mem_cons_self, rfl⟩, fun row mem => ?_⟩
  obtain ⟨job, filed, kept⟩ := rows row mem
  exact ⟨job.written, filed.describes, kept (keeps job.key)⟩

end Database

end JobNode
