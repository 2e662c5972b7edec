import JobNode.Proofs.Manager.LostUpdates
import Mathlib.Data.List.DropRight

/-!
# Taking turns

As long as nobody saves a record between the read and the save of another party, every save replaces
the version that its party has read, so nothing is undone.  Then a job has a life: it is pending until
a completion makes it a success or a failure, its log only grows, and its tasks and values stay.

* `Traffic.InTurn`: what callers have to see to.
* `Traffic.current_of_save`: whoever saves a record in turn replaces the version that he has read.
* `Traffic.lifecycle_in_turns`: the life of every job.
-/

namespace JobNode

/-! ## Records -/

/-- A record that may come at any time after an old one. -/
structure Job.Advances (old next : Job) : Prop where
  status : next.status = old.status ∨ old.status = .pending
  logs : old.logs <+: next.logs
  tasks : ∀ name, old.taskStatus.contains name → next.taskStatus.contains name
  values : ∀ name, old.values.contains name → next.values.contains name

namespace Job

variable {old mid next : Job}

theorem Continues.advances (continues : old.Continues next) : old.Advances next where
  status := continues.status
  logs := by
    obtain ⟨added, logs⟩ := continues.logs
    exact ⟨added.toList, logs.symm⟩
  tasks := continues.tasks
  values := continues.values

theorem Advances.trans (first : old.Advances mid) (later : mid.Advances next) :
    old.Advances next where
  status := by
    rcases first.status with same | pending
    · rw [← same]
      exact later.status
    · exact .inr pending
  logs := first.logs.trans later.logs
  tasks name there := later.tasks name (first.tasks name there)
  values name there := later.values name (first.values name there)

instance : Trans Job.Advances Job.Advances Job.Advances := ⟨Advances.trans⟩

/-- The statuses along advancing records: pending ones first, and then one and the same. -/
theorem status_of_advancing {records : List Job} (advancing : records.Pairwise Job.Advances) :
    ∃ k l last, records.map (·.status) = List.replicate k .pending ++ List.replicate l last := by
  induction records with
  | nil => exact ⟨0, 0, .pending, rfl⟩
  | cons first rest ih =>
    obtain ⟨after, later⟩ := List.pairwise_cons.1 advancing
    by_cases pending : first.status = .pending
    · obtain ⟨k, l, last, statuses⟩ := ih later
      refine ⟨k + 1, l, last, ?_⟩
      rw [List.map_cons, pending, statuses]
      rfl
    · have same : rest.map (·.status) = List.replicate rest.length first.status := by
        refine List.eq_replicate_iff.2 ⟨List.length_map _, fun status mem => ?_⟩
        obtain ⟨job, member, rfl⟩ := List.mem_map.1 mem
        exact (after job member).status.resolve_right pending
      refine ⟨0, rest.length + 1, first.status, ?_⟩
      rw [List.map_cons, same]
      rfl

end Job

namespace Manager

open Procedure (Exchange saves)

variable {branch : Branch} {a : Assignment} {t : Instant} {job : Job}

/-- Only a completion changes the status, and only that of a pending job, and for good. -/
theorem status_settled (branch : Branch) (a : Assignment) (t : Instant) (job : Job) :
    (branch.settled a t job).status = job.status ∨
      job.status = .pending ∧ (branch.settled a t job).status.isTerminal ∧
        ∃ last, branch = .completion last := by
  by_cases pending : job.status = .pending
  · have status : (branch.settled a t job).status = branch.verdict a := if_pos pending
    rw [status, pending]
    cases branch with
    | cancellation => exact .inl rfl
    | completion last =>
      cases last with
      | error text => exact .inr ⟨rfl, rfl, _, rfl⟩
      | ok done =>
        cases created : a.created with
        | true => exact .inr ⟨rfl, by simp [Branch.verdict, created, Status.isTerminal], _, rfl⟩
        | false => exact .inl (by simp [Branch.verdict, created])
  · exact .inl (if_neg pending)

/-- A job that is done gets a log entry at most. -/
theorem settled_of_terminal (terminal : job.status.isTerminal) :
    branch.settled a t job = { job with logs := job.logs ++ (branch.entry? a t).toList } := by
  have done : job.status ≠ .pending := by
    intro pending
    rw [pending] at terminal
    cases terminal
  rw [Branch.settled, if_neg done]

namespace Traffic

/-! ## Turns -/

/-- It is no exchange of the party. -/
def Mark.isSilent (p : Party) (mark : Mark) : Bool := (Mark.by? p mark).isNone

/-- What was noted after the last exchange of a party. -/
def since (p : Party) (h : List Mark) : List Mark := h.rtakeWhile (Mark.isSilent p)

/-- The record that a party has read and not saved yet. -/
def read? (p : Party) (h : List Mark) : Option Job :=
  match (passedBy p h).getLast? with
  | some (.found job) => some job
  | _ => none

/-- The party that saves a job. -/
def Mark.saver? : Mark → Option Party
  | execution i (.exchanged (.saved _)) => some (.execution i)
  | operation j (.saved _) => some (.operation j)
  | _ => none

/-- If the party that saves a record has read it before, nobody else has saved it since then. -/
def InTurn (past : List Mark) (mark : Mark) : Prop :=
  ∀ p ∈ mark.saver?, ∀ old ∈ read? p past,
    ∀ job ∈ saves (allExchanges (since p past)), job.key ≠ old.key

instance (past : List Mark) (mark : Mark) : Decidable (InTurn past mark) :=
  inferInstanceAs (Decidable (∀ p ∈ mark.saver?, ∀ old ∈ read? p past,
    ∀ job ∈ saves (allExchanges (since p past)), job.key ≠ old.key))

variable {h past later earlier between : List Mark} {p : Party} {x : Exchange} {old : Job}
variable {m : Memory} {n : Nat} {events : List Event} {s : Traffic}

theorem saver?_mark : (p.mark (.saved job)).saver? = some p := by cases p <;> rfl

theorem since_eq (quiet : passedBy p between = []) :
    since p (earlier ++ p.mark x :: between) = between := by
  have silent : ∀ mark ∈ between.reverse, mark.isSilent p := fun mark mem =>
    Option.isNone_iff_eq_none.2 (List.filterMap_eq_nil_iff.1 quiet mark (List.mem_reverse.1 mem))
  have last : ¬ (p.mark x).isSilent p := by simp [Mark.isSilent, by?_mark]
  rw [since, List.rtakeWhile, List.reverse_append, List.reverse_cons, List.append_assoc,
    List.takeWhile_append_of_pos silent, List.singleton_append, List.takeWhile_cons_of_neg last,
    List.append_nil, List.reverse_reverse]

/-- What a party has read is the last version still, when it saves in turn. -/
theorem current_of_turn (reads : Run.Always (Reads m) h) (turns : Run.Always InTurn h)
    (split : h = past ++ p.mark (.saved job) :: later)
    (read : (passedBy p past).getLast? = some (.found old)) :
    (versions m old.key past).getLast? = some old := by
  have undisturbed := turns past _ later split p saver?_mark old (by rw [read?, read]; rfl)
  obtain ⟨earlier, between, rfl, quiet⟩ := exists_last read
  rw [since_eq quiet] at undisturbed
  have last : (versions m old.key earlier).getLast? = some old := by
    refine reads earlier (p.mark (.found old)) (between ++ p.mark (.saved job) :: later) ?_ old
      exchange?_mark
    rw [split, List.append_assoc]
    rfl
  have passed : saves (allExchanges (p.mark (.found old) :: between)) =
      saves (allExchanges between) := by
    rw [allExchanges_cons]
    rfl
  have others : (saves (allExchanges between)).filter (·.key = old.key) = [] :=
    List.filter_eq_nil_iff.2 fun job mem own => undisturbed job mem (of_decide_eq_true own)
  rw [versions_append, passed, others, List.append_nil]
  exact last

/-- Whoever saves a record in turn replaces the version that he has read. -/
theorem current_of_save (run : (create m n).run? events = some s) (ids : NewIds m events)
    (turns : Run.Always InTurn ((create m n).history events))
    (split : (create m n).history events = past ++ p.mark (.saved job) :: later) :
    (versions m job.key past = [] ∧ job.status = .pending) ∨
      ∃ old, (versions m job.key past).getLast? = some old ∧ Revises past old p job := by
  rcases saved_cases run ids split with ⟨none, account, description, t, fresh⟩ |
    ⟨old, -, read, revises⟩
  · exact .inl ⟨none, by rw [fresh]; rfl⟩
  · have current := current_of_turn (reads_of_run run) turns split read
    rw [← revises.same_key] at current
    exact .inr ⟨old, current, revises⟩

/-- Along the versions of a record nothing is undone. -/
theorem advancing_of_turns (run : (create m n).run? events = some s) (ids : NewIds m events)
    (turns : Run.Always InTurn ((create m n).history events)) (key : JobKey) :
    (versions m key ((create m n).history events)).Pairwise Job.Advances := by
  refine Run.Always.pairwise (always_versions (fun job at_ last none => nomatch none) ?_)
  intro past p job later split own last at_
  subst own
  rcases current_of_save run ids turns split with ⟨none, -⟩ | ⟨old, current, revises⟩
  · rw [none] at at_
    cases at_
  · rw [current] at at_
    cases at_
    exact revises.continues.advances

/-- **The life of a job whose parties take turns.**  In every run in which nobody saves a record
between the read and the save of another party, whichever reads and saves fail: from each version of
a record to the next the log is continued, no task and no value is lost, and the status changes once
at most, from pending to a success or a failure.  A save that changes the status is that of a
finalizer that has chosen to complete the job, and a finalizer of a job that is done adds a log entry
at most. -/
theorem lifecycle_in_turns (run : (create m n).run? events = some s) (ids : NewIds m events)
    (turns : Run.Always InTurn ((create m n).history events)) :
    let h := (create m n).history events
    (∀ key,
      let vs := versions m key h
      s.memory.get? key = vs.getLast? ∧ vs.Pairwise Job.Advances ∧
        ∃ k l last, vs.map (·.status) = List.replicate k .pending ++ List.replicate l last) ∧
    ∀ past p job later, h = past ++ Party.mark p (.saved job) :: later →
      (versions m job.key past = [] ∧ job.status = .pending) ∨
      ∃ old, (versions m job.key past).getLast? = some old ∧
        (job.status = old.status ∨
          old.status = .pending ∧ job.status.isTerminal ∧ ∃ i a last, p = .execution i ∧
            a.key = job.key ∧ .execution i (.chose a (.completion last)) ∈ past) ∧
        ∀ i, p = .execution i → old.status.isTerminal → ∃ a branch t, a.key = job.key ∧
          .execution i (.chose a branch) ∈ past ∧
            job = { old with logs := old.logs ++ (branch.entry? a t).toList } := by
  intro h
  refine ⟨fun key => ?_, fun past p job later split => ?_⟩
  · have advancing := advancing_of_turns run ids turns key
    exact ⟨(stored_of_run run).get?_eq key, advancing, Job.status_of_advancing advancing⟩
  · rcases current_of_save run ids turns split with first | ⟨old, current, revises⟩
    · exact .inl first
    · refine .inr ⟨old, current, ?_, ?_⟩
      · cases revises with
        | @finalize i a branch t chose own =>
          rcases status_settled branch a t old with same | ⟨pending, terminal, last, rfl⟩
          · exact .inl same
          · exact .inr ⟨pending, terminal, i, a, last, rfl, own.symm, chose⟩
        | operate updated => cases updated <;> exact .inl rfl
      · rintro i rfl terminal
        cases revises with
        | @finalize _ a branch t chose own =>
          exact ⟨a, branch, t, own.symm, chose, settled_of_terminal terminal⟩

/-- A job that one call creates and another resumes.  A task is recorded; then the work of the second
call fails, and later that of the first, whose finalizer finds the job done. -/
def sampleTurns : List Event :=
  let key : JobKey := ⟨sampleAccount, ⟨.ofNat 4⟩⟩
  [.request ⟨sampleAccount, none, "demo"⟩, .execution 0 (.prepare (.identifier ⟨.ofNat 4⟩)),
    .execution 0 (.prepare (.time .epoch)), .execution 0 (.prepare .served), .execution 0 .enter,
    .request ⟨sampleAccount, some ⟨.ofNat 4⟩, "again"⟩, .execution 1 (.prepare .served),
    .execution 1 .enter, .operate (.updateTask key .success "step" "done"), .operation 0 .served,
    .operation 0 (.time .epoch), .operation 0 .served, .execution 1 (.endWork (.error "boom")),
    .execution 1 .choose, .execution 1 (.finalize .served), .execution 1 (.finalize (.time .epoch)),
    .execution 1 (.finalize .served), .execution 0 (.endWork (.error "late")), .execution 0 .choose,
    .execution 0 (.finalize .served), .execution 0 (.finalize (.time .epoch)),
    .execution 0 (.finalize .served)]

theorem sampleTurns_lifecycle :
    let key : JobKey := ⟨sampleAccount, ⟨.ofNat 4⟩⟩
    let h := (create .empty 1).history sampleTurns
    let vs := versions .empty key h
    NewIds .empty sampleTurns ∧ Run.Always InTurn h ∧
      vs.map (·.status) = [.pending, .pending, .failed, .failed] ∧
      vs.map (·.logs.length) = [0, 1, 2, 3] ∧
      ∃ s, (create .empty 1).run? sampleTurns = some s ∧ s.memory.get? key = vs.getLast? ∧
        vs.Pairwise Job.Advances := by
  intro key h vs
  have run : (create .empty 1).run? sampleTurns = some _ := rfl
  have drawn : draws sampleTurns = [(0, ⟨.ofNat 4⟩)] := rfl
  have ids : NewIds .empty sampleTurns := by
    constructor
    · rw [drawn]
      exact List.nodup_singleton _
    · exact fun draw mem account => rfl
  have turns : Run.Always InTurn h := by decide +kernel
  obtain ⟨life, -⟩ := lifecycle_in_turns run ids turns
  obtain ⟨last, advancing, -⟩ := life key
  exact ⟨ids, turns, rfl, rfl, _, run, last, advancing⟩

end Traffic

end Manager

end JobNode
