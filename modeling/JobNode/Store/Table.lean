import JobNode.Store.Memory
import JobNode.Store.Row

/-!
# The job table

The table has one row for each account and job.  Saving a job again keeps the place of its row and
the time of creation that was first written.  Listing goes by the text of the time of creation, and
by the place of the row where two texts are equal.

* `keys_nodup`: the primary key holds of every table by its type.
-/

namespace JobNode

/-- The rows of the job table, in the order of their first insertion. -/
structure Table where
  rows : List Row
  distinct : (rows.map Row.key).Nodup

namespace Table

/-- The table of a new database. -/
def empty : Table := ⟨[], .nil⟩

instance : Inhabited Table := ⟨empty⟩

/-- Insert a row, or update the one with its key. -/
def upsertRow (row : Row) : List Row → List Row
  | [] => [row]
  | r :: rest => if r.key = row.key then r.update row :: rest else r :: upsertRow row rest

theorem key_update (old new : Row) : (old.update new).key = old.key := rfl

theorem mem_keys_upsertRow {row : Row} {k : String × String} {rows : List Row}
    (h : k ∈ (upsertRow row rows).map Row.key) : k = row.key ∨ k ∈ rows.map Row.key := by
  induction rows with
  | nil => exact .inl (by simpa [upsertRow] using h)
  | cons r rest ih =>
    rw [upsertRow] at h
    split at h
    · exact .inr (by simpa [key_update] using h)
    · rcases List.mem_cons.1 h with h | h
      · exact .inr (h ▸ List.mem_cons_self)
      · rcases ih h with h | h
        · exact .inl h
        · exact .inr (List.mem_cons_of_mem _ h)

theorem nodup_keys_upsertRow (row : Row) {rows : List Row} (h : (rows.map Row.key).Nodup) :
    ((upsertRow row rows).map Row.key).Nodup := by
  induction rows with
  | nil => simp [upsertRow]
  | cons r rest ih =>
    obtain ⟨first, later⟩ := List.nodup_cons.1 h
    rw [upsertRow]
    split
    · exact List.nodup_cons.2 ⟨first, later⟩
    next ne =>
      refine List.nodup_cons.2 ⟨fun mem => ?_, ih later⟩
      rcases mem_keys_upsertRow mem with eq | mem
      · exact ne eq
      · exact first mem

/-- Insert a row, or update the one with its key. -/
def upsert (t : Table) (row : Row) : Table :=
  ⟨upsertRow row t.rows, nodup_keys_upsertRow row t.distinct⟩

/-- The refusal of a row whose key is taken. -/
def keyTaken : StorageError :=
  .engine (some "1555") "(code: 1555) UNIQUE constraint failed: jobs.account_id, jobs.job_id"

/-- Insert a new row. -/
def insert (t : Table) (row : Row) : Except StorageError Table :=
  if h : row.key ∈ t.rows.map Row.key then .error keyTaken
  else
    .ok ⟨t.rows ++ [row], by
      rw [List.map_append]
      refine List.nodup_append.2 ⟨t.distinct, by simp, fun a ha b hb e => ?_⟩
      have : b = row.key := by simpa using hb
      exact h (this ▸ e ▸ ha)⟩

/-- The row with the given key. -/
def row? (t : Table) (accountId jobId : String) : Option Row :=
  t.rows.find? fun r => r.accountId = accountId ∧ r.jobId = jobId

/-- The job under a key; none if there is no row. -/
def get? (t : Table) (key : JobKey) : Option (Except Error Job) :=
  (t.row? key.account.toText key.id.toText).map Row.job

/-- Keep a job under its own key. -/
def save (t : Table) (job : Job) (now : Instant) : Table :=
  t.upsert (.ofJob job now)

/-- The jobs of an account by the text of their time of creation, or the first fault of a row. -/
def list (t : Table) (account : AccountId) : Except Error (List Job) :=
  let mine := t.rows.filter fun r => r.accountId = account.toText
  (mine.mergeSort fun a b => a.createdAt ≤ b.createdAt).mapM Row.job

theorem keys_nodup (t : Table) : (t.rows.map Row.key).Nodup := t.distinct

end Table

end JobNode
