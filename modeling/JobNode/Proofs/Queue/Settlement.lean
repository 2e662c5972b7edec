import JobNode.Proofs.Queue.Custody
import Mathlib.Data.List.Count
import Mathlib.Data.List.Perm.Subperm

/-!
# Every submission is settled once

The history of a run accounts for every accepted submission: it is in the queue, in the hands of the
worker or the server that took it, or settled.  When the server has stopped, the queue and all hands
are empty.

* `Server.accounted_of_run`: the account of every run.
* `Server.submissions_settled_once`: what it means for the submissions themselves.
-/

namespace JobNode

namespace Deeds

/-- How often a submission with the identifier was accepted. -/
def timesAccepted (id : TaskId) (h : Deeds) : Nat := h.accepted.countP (·.id = id)

/-- How often a body was started for a submission with the identifier. -/
def timesBegun (id : TaskId) (h : Deeds) : Nat := h.begun.countP (·.2.id = id)

/-- Who took submissions with the identifier. -/
def takersOf (id : TaskId) (h : Deeds) : List Taker := (h.takings.filter (·.2.id = id)).map (·.1)

/-- The outcomes that were recorded for submissions with the identifier. -/
def outcomesOf (id : TaskId) (h : Deeds) : List Outcome :=
  (h.settlements.filter (·.2.1.id = id)).map (·.2.2)

theorem takersOf_length (id : TaskId) (h : Deeds) :
    (h.takersOf id).length = h.takings.countP (·.2.id = id) := by
  simp [takersOf, List.countP_eq_length_filter]

/-- What was settled, and by whom. -/
def settled (h : Deeds) : List (Taker × Submission) := h.settlements.map fun e => (e.1, e.2.1)

theorem outcomesOf_length (id : TaskId) (h : Deeds) :
    (h.outcomesOf id).length = h.settled.countP (·.2.id = id) := by
  simp [outcomesOf, settled, List.countP_eq_length_filter, List.filter_map, Function.comp_def]

theorem mem_takersOf {id : TaskId} {h : Deeds} {t : Taker} :
    t ∈ h.takersOf id ↔ ∃ x, (t, x) ∈ h.takings ∧ x.id = id := by
  simp [takersOf]

theorem mem_outcomesOf {id : TaskId} {h : Deeds} {outcome : Outcome} :
    outcome ∈ h.outcomesOf id ↔ ∃ t x, (t, x, outcome) ∈ h.settlements ∧ x.id = id := by
  simp [outcomesOf]

theorem count_pair {α : Type} [DecidableEq α] (l : List (Taker × α)) (t : Taker) (x : α) :
    l.count (t, x) = ((l.filter (·.1 = t)).map (·.2)).count x := by
  induction l with
  | nil => rfl
  | cons first rest ih =>
    obtain ⟨t', x'⟩ := first
    by_cases own : t' = t
    · by_cases same : x' = x <;> simp [own, same, ih]
    · simp [own, ih]

theorem settled_of_taker (h : Deeds) (t : Taker) :
    (h.settled.filter (·.1 = t)).map (·.2) = h.settledBy t := by
  simp [settled, settledBy, List.filter_map, Function.comp_def]

theorem subperm_of_taker {l k : List (Taker × Submission)}
    (each : ∀ t, ((l.filter (·.1 = t)).map (·.2)).Sublist ((k.filter (·.1 = t)).map (·.2))) :
    l.Subperm k := by
  classical
  refine List.subperm_ext_iff.2 fun e _ => ?_
  rw [count_pair, count_pair]
  exact (each e.1).count_le e.2

/-- If every taker settles only what it took, nothing is settled more often than it was taken. -/
theorem settled_subperm {h : Deeds} (each : ∀ t, (h.settledBy t).Sublist (h.takenBy t)) :
    h.settled.Subperm h.takings := by
  refine subperm_of_taker fun t => ?_
  rw [settled_of_taker]
  exact each t

end Deeds

namespace Server

variable {τ : Type}

/-! ## Runs of the server -/

/-- What a history says about the server that it leads to. -/
structure Accounted (s : Server τ) (h : Deeds) : Prop where
  orderly : s.Orderly
  queue : h.accepted = h.takings.map (·.2) ++ s.pool.pending
  backend : s.pool.backend = h.replay .empty
  custody : ∀ t, h.takenBy t = h.settledBy t ++ s.holds t
  begins : ∀ t, (h.begunBy t ++ s.unstarted t).Sublist (h.takenBy t)
  outcomes : ∀ settled ∈ h.settlements, settled.2.2 = .error .closed ↔ settled.1 = .server
  unhalted : s.mayAccept → .halted ∉ h
  halted : ∀ past later, h = past ++ .halted :: later → Deeds.accepted later = []

theorem accounted_create (settings : QueueSettings) :
    Accounted (create settings : Server τ) [] where
  orderly := orderly_create settings
  queue := rfl
  backend := rfl
  custody t := by cases t <;> rfl
  begins t := by cases t <;> exact .refl _
  outcomes := fun _ mem => nomatch mem
  unhalted := fun _ => List.not_mem_nil
  halted past later eq := by simp at eq

theorem Accounted.step {s next : Server τ} {h : Deeds} {e : Event τ} (before : Accounted s h)
    (happens : s.apply e = some next) : Accounted next (h ++ s.deeds e) := by
  have step := step_of_apply before.orderly happens
  refine
    { orderly := step.orderly
      queue := ?_
      backend := ?_
      custody := fun t => ?_
      begins := fun t => ?_
      outcomes := fun settled member => ?_
      unhalted := fun may => ?_
      halted := fun past later eq => ?_ }
  · rw [Deeds.accepted_append, before.queue, List.append_assoc, step.queue, Deeds.takings_append,
      List.map_append, List.append_assoc]
  · rw [Deeds.replay_append, ← before.backend, step.backend]
  · rw [Deeds.takenBy_append, before.custody, List.append_assoc, step.custody,
      Deeds.settledBy_append, List.append_assoc]
  · rw [Deeds.begunBy_append, Deeds.takenBy_append, List.append_assoc]
    have first := (step.begins t).append_left (h.begunBy t)
    have second := (before.begins t).append_right ((s.deeds e).takenBy t)
    rw [List.append_assoc] at second
    exact first.trans second
  · rw [Deeds.settlements_append, List.mem_append] at member
    exact member.elim (before.outcomes settled) (step.outcomes settled)
  · obtain ⟨mayBefore, notNow⟩ := step.halting may
    rw [List.mem_append]
    exact fun found => found.elim (before.unhalted mayBefore) notNow
  · -- the stop is one of the earlier deeds or one of this step; neither is followed by an acceptance
    have nowHalted {early late : Deeds} (split : s.deeds e = early ++ .halted :: late) :
        late.accepted = [] := by
      have none : (s.deeds e).accepted = [] := by
        by_contra some
        exact (step.accepting some).2 (by simp [split])
      rw [split, Deeds.accepted_append] at none
      exact (List.append_eq_nil_iff.1 none).2
    rcases List.append_eq_append_iff.1 eq with ⟨early, -, split⟩ | ⟨late, split, rest⟩
    · exact nowHalted split
    · cases late with
      | nil => exact @nowHalted [] _ rest.symm
      | cons first late =>
        obtain ⟨rfl, rfl⟩ := List.cons.inj rest
        have none : (s.deeds e).accepted = [] := by
          by_contra some
          exact before.unhalted (step.accepting some).1 (by simp [split])
        change Deeds.accepted (late ++ s.deeds e) = []
        rw [Deeds.accepted_append, before.halted past late split, none, List.append_nil]

theorem accounted_of_run {settings : QueueSettings} {events : List (Event τ)} {s : Server τ}
    (run : (create settings : Server τ).run? events = some s) :
    Accounted s ((create settings : Server τ).history events) :=
  Run.history_induction Accounted.step (accounted_create settings) run

variable {s : Server τ} {h : Deeds}

/-- Only what was taken is settled, and nothing more often than it was taken. -/
theorem Accounted.settled_subperm (account : Accounted s h) : h.settled.Subperm h.takings := by
  refine Deeds.settled_subperm fun t => ?_
  rw [account.custody t]
  exact List.sublist_append_left _ _

/-- Bodies are started only for what a worker took, and none more often than it was taken. -/
theorem Accounted.begun_subperm (account : Accounted s h) : h.begun.Subperm h.takings :=
  Deeds.subperm_of_taker fun t =>
    (List.sublist_append_left _ _).trans (account.begins t)

/-- Once the server has stopped nobody holds anything. -/
theorem Accounted.holds_eq_nil (account : Accounted s h) (stopped : s.phase = .stopped)
    (t : Taker) : s.holds t = [] := by
  cases t with
  | worker w =>
    cases at_ : s.pool.workers[w]? with
    | none => simp [holds, at_]
    | some worker =>
      have gone := account.orderly.exited (.inr stopped) worker (List.mem_of_getElem? at_)
      simp [holds, at_, gone, Worker.held?]
  | server =>
    cases held : s.closing? with
    | none => simp [holds, held]
    | some x =>
      have closing := account.orderly.closing x held
      simp [stopped] at closing

/-- Once the server has stopped everything that was taken is settled. -/
theorem Accounted.settled_perm (account : Accounted s h) (stopped : s.phase = .stopped) :
    h.settled.Perm h.takings := by
  -- empty hands leave nothing between what a taker took and what it settled
  refine account.settled_subperm.antisymm (Deeds.subperm_of_taker fun t => ?_)
  rw [Deeds.settled_of_taker]
  change (h.takenBy t).Sublist (h.settledBy t)
  rw [account.custody t, account.holds_eq_nil stopped, List.append_nil]

theorem Accounted.takersOf_length (account : Accounted s h) (id : TaskId) :
    (h.takersOf id).length + s.pool.pending.countP (·.id = id) = h.timesAccepted id := by
  rw [Deeds.timesAccepted, account.queue, List.countP_append, List.countP_map]
  simp [Deeds.takersOf, List.countP_eq_length_filter, Function.comp_def]

/-- **No submission is lost, and none is settled twice.**  However clients, workers and the shutdown
alternate, submissions leave the queue in the order in which they were accepted, nothing is accepted
after the stop, a body is started and an outcome recorded only for a submission that was taken and at
most once each, and the outcome says that the queue was closed just when the server itself took the
submission.  When the server has stopped, everything that was accepted was taken and settled: the
submission of an identifier that was accepted once has one taker and one outcome. -/
theorem submissions_settled_once {settings : QueueSettings} {events : List (Event τ)}
    {s : Server τ} (run : (create settings).run? events = some s) :
    let h := (create settings : Server τ).history events
    h.accepted = h.takings.map (·.2) ++ s.pool.pending ∧
    s.pool.backend = h.replay .empty ∧
    h.begun.Subperm h.takings ∧
    h.settled.Subperm h.takings ∧
    (∀ settled ∈ h.settlements, settled.2.2 = .error .closed ↔ settled.1 = .server) ∧
    (∀ past later, h = past ++ .halted :: later → Deeds.accepted later = []) ∧
    (∀ id, h.timesAccepted id = 1 →
      (h.takersOf id).length ≤ 1 ∧ h.timesBegun id ≤ 1 ∧ (h.outcomesOf id).length ≤ 1) ∧
    (s.phase = .stopped →
      s.pool.pending = [] ∧
      h.settled.Perm h.takings ∧
      ∀ id, h.timesAccepted id = 1 →
        ∃ taker outcome, h.takersOf id = [taker] ∧ h.outcomesOf id = [outcome] ∧
          (outcome = .error .closed ↔ ∀ w, taker ≠ .worker w)) := by
  intro h
  have account : Accounted s h := accounted_of_run run
  refine ⟨account.queue, account.backend, account.begun_subperm, account.settled_subperm,
    account.outcomes, account.halted, fun id once => ?_, fun stopped => ?_⟩
  · have taken := account.takersOf_length id
    rw [once] at taken
    have begun := account.begun_subperm.countP_le (·.2.id = id)
    have settled := account.settled_subperm.countP_le (·.2.id = id)
    rw [← Deeds.takersOf_length] at begun settled
    rw [← Deeds.outcomesOf_length] at settled
    refine ⟨by omega, ?_, by omega⟩
    rw [Deeds.timesBegun]
    omega
  · have nothing := account.orderly.stopped stopped
    refine ⟨nothing, account.settled_perm stopped, fun id once => ?_⟩
    have taken := account.takersOf_length id
    rw [nothing, once] at taken
    have settled := (account.settled_perm stopped).countP_eq (·.2.id = id)
    rw [← Deeds.takersOf_length, ← Deeds.outcomesOf_length] at settled
    obtain ⟨taker, takers⟩ := List.length_eq_one_iff.1 taken
    rw [takers] at settled
    obtain ⟨outcome, outcomes⟩ := List.length_eq_one_iff.1 settled
    refine ⟨taker, outcome, takers, outcomes, ?_⟩
    have recorded : outcome ∈ h.outcomesOf id := by rw [outcomes]; exact List.mem_singleton.2 rfl
    obtain ⟨t, x, entry, own⟩ := Deeds.mem_outcomesOf.1 recorded
    have took : (t, x) ∈ h.takings :=
      (account.settled_perm stopped).subset (List.mem_map.2 ⟨(t, x, outcome), entry, rfl⟩)
    -- whoever recorded the outcome took the submission, and there is only one who did
    have same : t = taker := by
      have member := Deeds.mem_takersOf.2 ⟨x, took, own⟩
      rw [takers] at member
      exact List.mem_singleton.1 member
    rw [account.outcomes _ entry, same]
    cases taker <;> simp

/-- Two submissions: a worker takes the first after the stop was given, and settles it; the second is
left to the server. -/
def sampleRun : List (Event Unit) :=
  [.register "ping" "ping" (), .start, .enqueue ⟨.ofNat 1⟩ "ping" .empty .epoch,
    .enqueue ⟨.ofNat 2⟩ "ping" .empty .epoch, .work (.wake 0), .work (.look 0), .halt,
    .cancelWorkers, .work (.take 0), .closePool, .work (.count 0), .work (.begin 0 .epoch),
    .forget ⟨.ofNat 2⟩, .work (.finish 0 (.returned .null)), .work (.uncount 0), .work (.store 0),
    .work (.rest 0), .work (.exit 0), .joinWorkers, .takePending, .closePending, .finish]

theorem sampleRun_settled_once :
    ∃ s, (create { workers := 1 }).run? sampleRun = some s ∧ s.phase = .stopped ∧
      s.pool.pending = [] ∧
      ∃ taker outcome,
        ((create { workers := 1 }).history sampleRun).takersOf ⟨.ofNat 1⟩ = [taker] ∧
        ((create { workers := 1 }).history sampleRun).outcomesOf ⟨.ofNat 1⟩ = [outcome] ∧
        (outcome = .error .closed ↔ ∀ w, taker ≠ .worker w) := by
  have run : (create { workers := 1 }).run? sampleRun = some _ := rfl
  have settled := (submissions_settled_once run).2.2.2.2.2.2.2 rfl
  exact ⟨_, run, rfl, settled.1, settled.2.2 _ (by decide)⟩

end JobNode.Server
