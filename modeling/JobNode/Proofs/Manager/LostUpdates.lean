import JobNode.Proofs.Manager.Versions

/-!
# What survives lost updates

Records are read and saved as a whole, so whoever saves last may undo what others have saved since he
has read.  Still every version of a record stands on an earlier one, with at most one log entry more,
so whatever no party ever changes is the same in all versions.

* `Job.Continues`: what any party may make of a record.
* `Traffic.stands_of_run`: every version continues an earlier one.
* `Traffic.survives_lost_updates`: what this means for the records of a key.
-/

namespace JobNode

namespace Job

/-- Every value is filed under its own key. -/
def ValuesFiled (job : Job) : Prop := ∀ name value, job.values.get? name = some value →
  value.key = name

/-- A record that was made of an old one.  It names the same job, has the log of the old one with at
most one entry more, loses no task and no value, and changes a status that is pending at most. -/
structure Continues (old next : Job) : Prop where
  id : next.id = old.id
  account : next.account = old.account
  description : next.description = old.description
  createdAt : next.createdAt = old.createdAt
  status : next.status = old.status ∨ old.status = .pending
  logs : ∃ added : Option LogEntry, next.logs = old.logs ++ added.toList
  tasks : ∀ name, old.taskStatus.contains name → next.taskStatus.contains name
  values : ∀ name, old.values.contains name → next.values.contains name
  filed : old.ValuesFiled → next.ValuesFiled

theorem continues_setValue (job : Job) (name : String) (bytes : List UInt8) :
    job.Continues (job.setValue name bytes) where
  id := rfl
  account := rfl
  description := rfl
  createdAt := rfl
  status := .inl rfl
  logs := ⟨none, (List.append_nil _).symm⟩
  tasks _ there := there
  values _ there := Dict.contains_insert there _ _
  filed filed other value at_ := by
    change (job.values.insert name ⟨name, bytes⟩).get? other = some value at at_
    by_cases own : other = name
    · subst own
      rw [Dict.get?_insert_self] at at_
      cases at_
      rfl
    · rw [Dict.get?_insert_of_ne _ own] at at_
      exact filed other value at_

theorem continues_task (job : Job) (status : Status) (task message : String) (t : Instant) :
    job.Continues ((job.setTaskStatus task status).addLog task message t) where
  id := rfl
  account := rfl
  description := rfl
  createdAt := rfl
  status := .inl rfl
  logs := ⟨some ⟨task, message, t⟩, rfl⟩
  tasks _ there := Dict.contains_insert there _ _
  values _ there := there
  filed filed := filed

end Job

namespace Manager

open Procedure (Exchange saves)

theorem continues_settled (branch : Branch) (a : Assignment) (t : Instant) (job : Job) :
    job.Continues (branch.settled a t job) where
  id := rfl
  account := rfl
  description := rfl
  createdAt := rfl
  status := by
    by_cases pending : job.status = .pending
    · exact .inr pending
    · exact .inl (if_neg pending)
  logs := ⟨branch.entry? a t, rfl⟩
  tasks _ there := there
  values _ there := there
  filed filed := filed

theorem Updated.continues {old next : Job} (updated : Updated old next) : old.Continues next := by
  cases updated with
  | task status task message t => exact old.continues_task status task message t
  | value name bytes => exact old.continues_setValue name bytes

namespace Traffic

theorem Revises.continues {past : List Mark} {p : Party} {old job : Job}
    (revises : Revises past old p job) : old.Continues job := by
  cases revises with
  | finalize t chose own => exact continues_settled _ _ t old
  | operate updated => exact updated.continues

variable {m : Memory} {n : Nat} {events : List Event} {s : Traffic} {key : JobKey}

/-- A version is the first of its key, and its values are filed if those of the first record were, or
it continues an earlier one. -/
def Stands (m : Memory) (key : JobKey) (earlier : List Job) (job : Job) : Prop :=
  earlier = [] ∧ ((∀ first, m.get? key = some first → first.ValuesFiled) → job.ValuesFiled) ∨
    ∃ old ∈ earlier, old.Continues job

theorem stands_of_run (run : (create m n).run? events = some s) (ids : NewIds m events)
    (key : JobKey) : Run.Always (Stands m key) (versions m key ((create m n).history events)) := by
  refine always_versions (fun job at_ => .inl ⟨rfl, fun filed => filed job at_⟩) ?_
  intro past p job later split own
  subst own
  rcases saved_cases run ids split with ⟨none, account, description, t, fresh⟩ |
    ⟨old, mem, -, revises⟩
  · refine .inl ⟨none, fun _ name value at_ => ?_⟩
    rw [fresh] at at_
    cases at_
  · exact .inr ⟨old, mem, revises.continues⟩

/-- A step removes no record. -/
theorem isSome_of_step {next : Traffic} {marks : List Mark} (step : Step s marks next)
    (there : (s.memory.get? key).isSome) : (next.memory.get? key).isSome := by
  rcases step.exchange with ⟨-, same⟩ | ⟨α, p, p', moves⟩
  · rw [same]
    exact there
  · rw [moves.memory_eq]
    exact Procedure.isSome_keep there _

/-- A key that has a record keeps having one. -/
theorem isSome_of_run {more : List Event} {last : Traffic} (after : s.run? more = some last)
    (there : (s.memory.get? key).isSome) : (last.memory.get? key).isSome := by
  induction more generalizing s with
  | nil =>
    cases after
    exact there
  | cons e rest ih =>
    rw [run?, Run.last?] at after
    cases happens : s.apply e with
    | none => simp [happens] at after
    | some next =>
      rw [happens] at after
      exact ih after (isSome_of_step (step_of_apply happens) there)

/-- **What survives lost updates.**  However reads and saves alternate, overlapping ones on one key
included, and whichever of them fail: what is stored under a key is the last of its versions; all of
them have that key, and the description and the time of creation of the first; the log of every later
version is that of an earlier one with at most one entry more; values stay filed under their own keys
if they were at first; and a key that has a record keeps having one. -/
theorem survives_lost_updates (run : (create m n).run? events = some s) (ids : NewIds m events)
    (key : JobKey) :
    let vs := versions m key ((create m n).history events)
    s.memory.get? key = vs.getLast? ∧
    (∀ job ∈ vs, job.key = key ∧ ∀ first ∈ vs.head?, job.id = first.id ∧
      job.account = first.account ∧ job.description = first.description ∧
        job.createdAt = first.createdAt) ∧
    (∀ earlier job later, vs = earlier ++ job :: later → earlier ≠ [] →
      ∃ old ∈ earlier, ∃ added : Option LogEntry, job.logs = old.logs ++ added.toList) ∧
    ((∀ first, m.get? key = some first → first.ValuesFiled) → ∀ job ∈ vs, job.ValuesFiled) ∧
    ∀ more last, s.run? more = some last →
      (s.memory.get? key).isSome → (last.memory.get? key).isSome := by
  intro vs
  have stands : Run.Always (Stands m key) vs := stands_of_run run ids key
  -- the first version is itself the first, and what continues a version names the same job
  have same : ∀ job ∈ vs, ∀ first ∈ vs.head?, job.id = first.id ∧ job.account = first.account ∧
      job.description = first.description ∧ job.createdAt = first.createdAt := by
    refine stands.forall_mem fun past job later split same fits first at_ => ?_
    rcases fits with ⟨rfl, -⟩ | ⟨old, member, continues⟩
    · rw [split] at at_
      cases at_
      exact ⟨rfl, rfl, rfl, rfl⟩
    · obtain ⟨id, account, description, createdAt⟩ := same old member first at_
      exact ⟨continues.id.trans id, continues.account.trans account,
        continues.description.trans description, continues.createdAt.trans createdAt⟩
  refine ⟨(stored_of_run run).get?_eq key, fun job mem => ⟨key_of_mem_versions mem, same job mem⟩,
    fun earlier job later split some => ?_, fun filed => ?_, fun more last after there => ?_⟩
  · rcases stands earlier job later split with ⟨none, -⟩ | ⟨old, mem, continues⟩
    · exact absurd none some
    · exact ⟨old, mem, continues.logs⟩
  · refine stands.forall_mem ?_
    intro past job later split same fits
    rcases fits with ⟨-, first⟩ | ⟨old, member, continues⟩
    · exact first filed
    · exact continues.filed (same old member)
  · exact isSome_of_run after there

/-- A task is recorded and a value is stored at the same time: both read the same record, and the
second save undoes the first.  Beside them a call opens a new job. -/
def sampleLostUpdate : List Event :=
  let key : JobKey := ⟨sampleAccount, ⟨.ofNat 3⟩⟩
  [.operate (.updateTask key .success "step" "done"), .operate (.updateValue key "k" [1]),
    .operation 0 .served, .operation 1 .served, .operation 0 (.time .epoch), .operation 0 .served,
    .request ⟨sampleAccount, none, "demo"⟩, .execution 0 (.prepare (.identifier ⟨.ofNat 4⟩)),
    .execution 0 (.prepare (.time .epoch)), .execution 0 (.prepare .served),
    .operation 1 (.time .epoch), .operation 1 .served]

theorem sampleLostUpdate_survives :
    let key : JobKey := ⟨sampleAccount, ⟨.ofNat 3⟩⟩
    let m := Memory.empty.save (Job.create ⟨.ofNat 3⟩ sampleAccount "old" .epoch)
    let vs := versions m key ((create m 1).history sampleLostUpdate)
    NewIds m sampleLostUpdate ∧ vs.map (·.logs.length) = [0, 1, 0] ∧
      ∃ s, (create m 1).run? sampleLostUpdate = some s ∧ s.memory.get? key = vs.getLast? ∧
        (∀ job ∈ vs, job.key = key) ∧ (∀ job ∈ vs, job.ValuesFiled) ∧
        ∀ earlier job later, vs = earlier ++ job :: later → earlier ≠ [] →
          ∃ old ∈ earlier, ∃ added : Option LogEntry, job.logs = old.logs ++ added.toList := by
  intro key m vs
  have run : (create m 1).run? sampleLostUpdate = some _ := rfl
  have drawn : draws sampleLostUpdate = [(0, ⟨.ofNat 4⟩)] := rfl
  have ids : NewIds m sampleLostUpdate := by
    constructor
    · rw [drawn]
      exact List.nodup_singleton _
    · intro draw mem account
      rw [drawn] at mem
      rw [List.mem_singleton.1 mem, Memory.get?_save_of_ne]
      · rfl
      · intro same
        have id : (⟨.ofNat 4⟩ : JobId) = ⟨.ofNat 3⟩ := congrArg JobKey.id same
        exact absurd id (by decide)
  have filed : ∀ first, m.get? key = some first → first.ValuesFiled := by
    intro first at_ name value found
    cases at_
    cases found
  obtain ⟨last, same, logs, values, -⟩ := survives_lost_updates run ids key
  exact ⟨ids, rfl, _, run, last, fun job mem => (same job mem).1, values filed, logs⟩

end Traffic

end Manager

end JobNode
