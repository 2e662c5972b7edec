import JobNode.Proofs.Job.Record
import JobNode.Store.Table
import Mathlib.Data.List.Perm.Basic

/-!
# Tables that mirror jobs in memory

A job table and jobs in memory that were given the same jobs stay in step: the rows and the entries
have the same keys in the same places, and each row holds the record of its job.  The keys of rows
are texts, and since no two keys share their texts a question to the table is the same question to
memory.  The table answers with the job that the record shows.

* `Mirrors.save`: a save keeps the two in step;
* `Mirrors.get?`: they find the same job under every key, up to what its record shows;
* `Mirrors.list`: they list the same jobs in that sense.
-/

namespace JobNode

/-- The texts that a row is filed under. -/
def JobKey.texts (key : JobKey) : String × String := (key.account.toText, key.id.toText)

theorem JobKey.texts_inj {a b : JobKey} : a.texts = b.texts ↔ a = b := by
  rw [texts, texts, Prod.mk.injEq, AccountId.toText_inj, JobId.toText_inj]
  constructor
  · rintro ⟨account, id⟩
    cases a
    cases b
    cases account
    cases id
    rfl
  · rintro rfl
    exact ⟨rfl, rfl⟩

/-- A row holds the record of a job that is filed under a key. -/
structure Row.Holds (row : Row) (entry : JobKey × Job) : Prop where
  key : row.key = entry.1.texts
  record : row.data = entry.2.toText

theorem Row.job_of_data {row : Row} {job : Job} (record : row.data = job.toText) :
    row.job = .ok job.written := by
  rw [Row.job, record, Job.parse_toText]
  rfl

theorem Row.Holds.job {row : Row} {entry : JobKey × Job} (holds : row.Holds entry) :
    row.job = .ok entry.2.written :=
  job_of_data holds.record

/-- The rows hold the records, each in its place. -/
def Mirrors (t : Table) (m : Memory) : Prop :=
  List.Forall₂ Row.Holds t.rows m.records.entries

namespace Mirrors

theorem empty : Mirrors .empty .empty := .nil

/-- What a job is saved as holds it, in a new row and in an old one. -/
theorem holds_ofJob (job : Job) (now : Instant) : (Row.ofJob job now).Holds (job.key, job) :=
  ⟨rfl, rfl⟩

theorem holds_update {row : Row} {entry : JobKey × Job} {job : Job} (now : Instant)
    (old : row.Holds entry) (own : entry.1 = job.key) :
    (row.update (.ofJob job now)).Holds (job.key, job) :=
  ⟨old.key.trans (congrArg JobKey.texts own), rfl⟩

theorem upsertRow {rows : List Row} {entries : List (JobKey × Job)} (job : Job) (now : Instant)
    (held : List.Forall₂ Row.Holds rows entries) :
    List.Forall₂ Row.Holds (Table.upsertRow (.ofJob job now) rows)
      (Keyed.putEntry job.key job entries) := by
  induction held with
  | nil => exact .cons (holds_ofJob job now) .nil
  | @cons row entry rows entries first rest ih =>
    obtain ⟨key, old⟩ := entry
    have same : row.key = (Row.ofJob job now).key ↔ key = job.key := by
      rw [first.key, (holds_ofJob job now).key, JobKey.texts_inj]
    rw [Table.upsertRow, Keyed.putEntry]
    by_cases own : key = job.key
    · rw [if_pos (same.2 own), if_pos own]
      exact .cons (holds_update now first own) rest
    · rw [if_neg (mt same.1 own), if_neg own]
      exact .cons first ih

variable {t : Table} {m : Memory}

theorem save (mirrors : Mirrors t m) (job : Job) (now : Instant) :
    Mirrors (t.save job now) (m.save job) :=
  upsertRow job now mirrors

/-- They stay in step through any saves, whenever each of them happens. -/
theorem saveAll (mirrors : Mirrors t m) (saved : List (Job × Instant)) :
    Mirrors (saved.foldl (fun t entry => t.save entry.1 entry.2) t)
      ((saved.map (·.1)).foldl Memory.save m) := by
  induction saved generalizing t m with
  | nil => exact mirrors
  | cons entry rest ih => exact ih (mirrors.save entry.1 entry.2)

theorem find?_rows {rows : List Row} {entries : List (JobKey × Job)}
    (held : List.Forall₂ Row.Holds rows entries) (key : JobKey) :
    (rows.find? fun r => r.accountId = key.account.toText ∧ r.jobId = key.id.toText).map Row.job =
      (Keyed.lookup key entries).map fun job => .ok job.written := by
  induction held with
  | nil => rfl
  | @cons row entry rows entries first rest ih =>
    obtain ⟨own, job⟩ := entry
    have same : (row.accountId = key.account.toText ∧ row.jobId = key.id.toText) ↔ own = key := by
      rw [← JobKey.texts_inj, ← first.key, Row.key, JobKey.texts, Prod.mk.injEq]
    rw [List.find?_cons, Keyed.lookup]
    by_cases here : own = key
    · rw [decide_eq_true (same.2 here), if_pos here]
      simp only [Option.map_some, first.job]
    · rw [decide_eq_false (mt same.1 here), if_neg here]
      exact ih

/-- The table finds what its record shows of the job that is in memory, and no job where there is
none. -/
theorem get? (mirrors : Mirrors t m) (key : JobKey) :
    t.get? key = (m.get? key).map fun job => .ok job.written :=
  find?_rows mirrors key

/-! ## Lists -/

theorem filter_rows {rows : List Row} {entries : List (JobKey × Job)}
    (held : List.Forall₂ Row.Holds rows entries) (account : AccountId) :
    List.Forall₂ Row.Holds (rows.filter fun r => r.accountId = account.toText)
      (entries.filter fun e => e.1.account = account) := by
  induction held with
  | nil => exact .nil
  | @cons row entry rows entries first rest ih =>
    have texts : row.accountId = entry.1.account.toText := congrArg Prod.fst first.key
    have same : row.accountId = account.toText ↔ entry.1.account = account := by
      rw [texts, AccountId.toText_inj]
    by_cases own : entry.1.account = account
    · rw [List.filter_cons, List.filter_cons, if_pos (decide_eq_true (same.2 own)),
        if_pos (decide_eq_true own)]
      exact .cons first ih
    · rw [List.filter_cons, List.filter_cons, if_neg (by simpa using mt same.1 own),
        if_neg (by simpa using own)]
      exact ih

theorem mapM_rows {rows : List Row} {entries : List (JobKey × Job)}
    (held : List.Forall₂ Row.Holds rows entries) :
    rows.mapM Row.job = .ok (entries.map (·.2.written)) := by
  induction held with
  | nil => rfl
  | cons first rest ih => simp [List.mapM_cons, first.job, ih, bind, Except.bind, pure, Except.pure]

theorem mapM_sorted {rows : List Row} {entries : List (JobKey × Job)}
    (held : List.Forall₂ Row.Holds rows entries) (before : Row → Row → Bool) :
    ∃ jobs, (rows.mergeSort before).mapM Row.job = .ok jobs ∧
      jobs.Perm (entries.map (·.2.written)) := by
  obtain ⟨sorted, still, same⟩ := List.perm_comp_forall₂ (List.mergeSort_perm rows before) held
  exact ⟨sorted.map (·.2.written), mapM_rows still, same.map _⟩

/-- The table lists the jobs that are in memory, as their records show them, if not in the same
order. -/
theorem list (mirrors : Mirrors t m) (account : AccountId) :
    ∃ jobs, t.list account = .ok jobs ∧ jobs.Perm ((m.list account).map Job.written) := by
  obtain ⟨jobs, read, same⟩ := mapM_sorted (filter_rows mirrors account) _
  have shown : ((m.records.entries.filter fun e => e.1.account = account).map (·.2.written)).Perm
      ((m.list account).map Job.written) := by
    have sorted := (List.mergeSort_perm
      ((m.records.entries.filter fun e => e.1.account = account).map (·.2))
      fun a b => a.createdAt ≤ b.createdAt).symm.map Job.written
    rwa [List.map_map] at sorted
  exact ⟨jobs, read, same.trans shown⟩

end Mirrors

end JobNode
