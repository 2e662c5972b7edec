import JobNode.Job.Key
import JobNode.Keyed

/-!
# Jobs in memory

Jobs filed under account and identifier.  Each key has one record, each record is filed under its own
key, and nothing outlives the process.

* `get?_save`: a save changes what is found under its own key only.
* `get?_foldl_save`: what is found after saves.
* `key_of_get?`: what is found under a key has that key.
-/

namespace JobNode

/-- Jobs in memory, in the order of their first save. -/
structure Memory where
  records : Keyed JobKey Job
  /-- Each job is filed under its own account and identifier. -/
  filed : ∀ key job, records.find? key = some job → job.key = key

namespace Memory

/-- No jobs. -/
def empty : Memory := ⟨.empty, fun _ _ h => nomatch h⟩

instance : Inhabited Memory := ⟨empty⟩

/-- The job under a key. -/
def get? (m : Memory) (key : JobKey) : Option Job := m.records.find? key

/-- Keep a job under its own key. -/
def save (m : Memory) (job : Job) : Memory where
  records := m.records.put job.key job
  filed key found h := by
    by_cases own : key = job.key
    · subst own
      rw [Keyed.find?_put_self] at h
      cases h
      rfl
    · rw [Keyed.find?_put_of_ne _ own] at h
      exact m.filed key found h

/-- Number of jobs. -/
def size (m : Memory) : Nat := m.records.size

/-- The jobs of an account, the oldest first. -/
def list (m : Memory) (account : AccountId) : List Job :=
  let mine := m.records.entries.filter fun r => r.1.account = account
  (mine.map (·.2)).mergeSort fun a b => a.createdAt ≤ b.createdAt

@[simp]
theorem get?_save_self (m : Memory) (job : Job) : (m.save job).get? job.key = some job :=
  m.records.find?_put_self job.key job

theorem get?_save_of_ne (m : Memory) (job : Job) {key : JobKey} (ne : key ≠ job.key) :
    (m.save job).get? key = m.get? key :=
  m.records.find?_put_of_ne ne job

theorem get?_save (m : Memory) (job : Job) (key : JobKey) :
    (m.save job).get? key = if key = job.key then some job else m.get? key := by
  by_cases own : key = job.key
  · subst own
    simp
  · rw [if_neg own, get?_save_of_ne m job own]

/-- After saves, the job under a key is the last one that was saved under it, or the first one of
all. -/
theorem get?_foldl_save (jobs : List Job) (m : Memory) (key : JobKey) :
    (jobs.foldl save m).get? key = ((m.get? key).toList ++ jobs.filter (·.key = key)).getLast? := by
  induction jobs generalizing m with
  | nil => cases at_ : m.get? key <;> simp [at_]
  | cons job rest ih =>
    rw [List.foldl_cons, ih, get?_save]
    by_cases own : job.key = key
    · simp [own, List.getLast?_append, List.getLast?_cons]
    · simp [own, Ne.symm own]

theorem key_of_get? {m : Memory} {key : JobKey} {job : Job} (h : m.get? key = some job) :
    job.key = key :=
  m.filed key job h

end Memory

end JobNode
