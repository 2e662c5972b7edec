import JobNode.Proofs.Manager.Versions

/-!
# New jobs whose work has failed

An identifier is drawn once, so a new job has one execution that has created it, and only that one
may call it a success.  If its work has failed there is no success to hide the failure: the record
that its finalizer saves is a failure, and the last entry of its log tells how the work failed.

* `running_of_chose`: an execution chooses once, for the job that it has opened.
* `Traffic.creator_unique`: a job has one creator.
* `Traffic.failed_of_saved`: what the finalizer of a new job saves whose work has failed.
-/

namespace JobNode.Manager

open Procedure (Exchange saves)

variable {r : Request} {h : List Mark} {a b : Assignment} {branch other : Branch}

theorem verdict_eq_success (success : branch.verdict a = .success) :
    a.created = true ∧ branch = .completion (.ok ()) := by
  cases branch with
  | cancellation => cases success
  | completion last =>
    cases last with
    | error text => cases success
    | ok done =>
      cases created : a.created with
      | true => exact ⟨rfl, rfl⟩
      | false => simp [Branch.verdict, created] at success

/-- An execution chooses once, for the job that it has opened. -/
theorem running_of_chose {stage : Stage} (accords : stage.Accords r h) (results : stage.Results h)
    (mem : .chose a branch ∈ h) :
    ∃ call rest, stage = .running call (some (branch, rest)) ∧ a = call.assignment ∧
      Entered r a h := by
  have chosen {past : List Mark} (there : .chose a branch ∈ past) : branch ∈ choices past :=
    List.mem_filterMap.2 ⟨_, there, rfl⟩
  cases stage with
  | opening rest c => cases accords.1 _ mem
  | refused cause =>
    rcases accords.2.1 _ mem with early | entry
    · cases early
    · cases entry
  | running call finalizer? =>
    have running : Running r call finalizer? h := accords
    have once := running.choices
    cases finalizer? with
    | none =>
      have none : branch ∈ choices h := chosen mem
      rw [once] at none
      cases none
    | some begun =>
      obtain ⟨chose, rest⟩ := begun
      obtain ⟨earlier, later, split, -⟩ := results
      have all : choices earlier ++ chose :: choices later = [chose] := by
        rw [split, choices_append] at once
        exact once
      have alone : choices earlier = [] ∧ choices later = [] := by
        have length := congrArg List.length all
        simp only [List.length_append, List.length_cons, List.length_nil] at length
        exact ⟨List.eq_nil_of_length_eq_zero (by omega), List.eq_nil_of_length_eq_zero (by omega)⟩
      rw [split] at mem
      rcases List.mem_append.1 mem with there | there
      · have before := chosen there
        rw [alone.1] at before
        cases before
      · rcases List.mem_cons.1 there with same | there
        · cases same
          exact ⟨call, rest, rfl, rfl, running.entered⟩
        · have after := chosen there
          rw [alone.2] at after
          cases after

namespace Traffic

variable {m : Memory} {n : Nat} {events : List Event} {s : Traffic} {i j : Nat}
variable {job : Job} {text : String} {past later : List Mark}

/-- The execution that has chosen is there, and has opened the job that it chose for. -/
theorem exists_of_chose (run : (create m n).run? events = some s)
    (chose : .execution i (.chose a branch) ∈ (create m n).history events) :
    ∃ x call rest, s.executions[i]? = some x ∧ x.stage = .running call (some (branch, rest)) ∧
      a = call.assignment ∧ Entered x.request a (of i ((create m n).history events)) := by
  have accord := inAccord_of_run run
  have mem := mem_of.2 chose
  cases at_ : s.executions[i]? with
  | none =>
    rw [accord.2 i (List.getElem?_eq_none_iff.1 at_)] at mem
    cases mem
  | some x =>
    obtain ⟨accords, results, -⟩ := accord.1 i x at_
    obtain ⟨call, rest, stage, own, entered⟩ := running_of_chose accords results mem
    exact ⟨x, call, rest, rfl, stage, own, entered⟩

theorem chose_unique (run : (create m n).run? events = some s)
    (chose : .execution i (.chose a branch) ∈ (create m n).history events)
    (chose' : .execution i (.chose b other) ∈ (create m n).history events) :
    b = a ∧ other = branch := by
  obtain ⟨x, call, rest, at_, stage, own, -⟩ := exists_of_chose run chose
  obtain ⟨x', call', rest', at_', stage', own', -⟩ := exists_of_chose run chose'
  cases at_.symm.trans at_'
  cases stage.symm.trans stage'
  exact ⟨own'.trans own.symm, rfl⟩

/-- An execution that has chosen for a job that it created has drawn the identifier of the job, and
has described the job as was asked. -/
theorem drawn_of_chose (run : (create m n).run? events = some s) (created : a.created = true)
    (chose : .execution i (.chose a branch) ∈ (create m n).history events) :
    (i, a.id) ∈ draws events ∧
      ∃ x, s.executions[i]? = some x ∧ a.description = x.request.description := by
  obtain ⟨x, call, rest, at_, -, -, opening, more, job, split, early, -, opened, -, id, description⟩ :=
    exists_of_chose run chose
  rw [created] at opened
  obtain ⟨saved, t, fresh⟩ := opened
  have first : .exchanged (.saved job) ∈ opening :=
    mem_exchanges.1 (Procedure.mem_saves.1 (saved ▸ List.mem_singleton.2 rfl))
  obtain ⟨before, between, rfl⟩ := List.append_of_mem first
  have draw := (drawing_of_run run).saved i before _ (between ++ _)
    (by rw [split, List.append_assoc]; rfl)
  refine ⟨?_, x, at_, ?_⟩
  · rw [id]
    exact draw fun mark there => early mark (List.mem_append_left _ there)
  · rw [description, fresh]
    rfl

/-- A job has one creator, which chooses once. -/
theorem creator_unique (run : (create m n).run? events = some s) (ids : NewIds m events)
    (chose : .execution i (.chose a branch) ∈ (create m n).history events)
    (created : a.created = true)
    (chose' : .execution j (.chose b other) ∈ (create m n).history events)
    (created' : b.created = true) (same : b.id = a.id) : j = i ∧ other = branch := by
  have drawn := (drawn_of_chose run created chose).1
  have drawn' := (drawn_of_chose run created' chose').1
  have who : j = i := by
    rw [same] at drawn'
    exact congrArg Prod.fst (List.inj_on_of_nodup_map ids.once drawn' drawn rfl)
  subst who
  exact ⟨rfl, (chose_unique run chose chose').2⟩

/-- A new job whose work has failed is never a success, for only its creator may say so. -/
theorem status_ne_success (run : (create m n).run? events = some s) (ids : NewIds m events)
    (created : a.created = true)
    (chose : .execution i (.chose a (.completion (.error text))) ∈ (create m n).history events) :
    ∀ job ∈ versions m a.key ((create m n).history events), job.status ≠ .success := by
  have unused : m.get? a.key = none := ids.unused _ (drawn_of_chose run created chose).1 a.account
  have always : Run.Always
      (fun past (job : Job) => (∀ old ∈ past, old.status ≠ .success) → job.status ≠ .success)
      (versions m a.key ((create m n).history events)) := by
    refine always_versions (fun job at_ => ?_) fun past p job later split own before => ?_
    · rw [unused] at at_
      cases at_
    · rcases saved_cases run ids split with ⟨-, account, description, t, fresh⟩ |
        ⟨old, member, -, revises⟩
      · rw [fresh]
        exact Status.noConfusion
      · rw [own] at member
        have still := before old member
        have key : old.key = a.key := key_of_mem_versions member
        cases revises with
        | operate updated => cases updated <;> exact still
        | @finalize j b other t chose' filed =>
          intro success
          have now : (if old.status = .pending then other.verdict b else old.status) = .success :=
            success
          split at now
          · obtain ⟨created', well⟩ := verdict_eq_success now
            have same : b.id = a.id := congrArg JobKey.id (filed.symm.trans key)
            have noted : .execution j (.chose b other) ∈ (create m n).history events :=
              split ▸ List.mem_append_left _ chose'
            have failing := (creator_unique run ids chose created noted created' same).2
            cases failing.symm.trans well
          · exact still now
  exact always.forall_mem fun past job later split before fits => fits before

/-- What the finalizer of a new job saves whose work has failed: the record is a failure, and its log
ends with what has failed. -/
theorem failed_of_saved (run : (create m n).run? events = some s) (ids : NewIds m events)
    (split : (create m n).history events =
      past ++ .execution i (.exchanged (.saved job)) :: later)
    (chose : .execution i (.chose a (.completion (.error text))) ∈ past)
    (created : a.created = true) :
    job.key = a.key ∧ job.status = .failed ∧
      job.lastMessage = "manager[" ++ a.description ++ "] " ++ text := by
  have noted {mark : Mark} (mem : mark ∈ past) : mark ∈ (create m n).history events :=
    split ▸ List.mem_append_left _ mem
  have own : (create m n).history events = past ++ Party.mark (.execution i) (.saved job) :: later :=
    split
  rcases (inRule_of_run run).saved_cases own with ⟨i', same, early, -, -⟩ | ⟨old, read, revises⟩
  · cases same
    exact nomatch early _ (mem_of.2 chose)
  · have member := mem_versions_of_read (reads_of_run run) own read
    cases revises with
    | @finalize _ b other t chose' filed =>
      obtain ⟨rfl, rfl⟩ := chose_unique run (noted chose) (noted chose')
      have earlier : old ∈ versions m b.key ((create m n).history events) := by
        rw [split, ← filed]
        exact versions_prefix.subset member
      have status := status_ne_success run ids created (noted chose) old earlier
      refine ⟨?_, ?_, ?_⟩
      · rw [key_settled, filed]
      · change (if old.status = .pending then _ else old.status) = Status.failed
        split
        · rfl
        next done =>
          cases was : old.status with
          | pending => exact absurd was done
          | success => exact absurd was status
          | failed => rfl
      · simp [Job.lastMessage, Job.lastLog?, Branch.settled, Branch.entry?]

end Traffic

end JobNode.Manager
