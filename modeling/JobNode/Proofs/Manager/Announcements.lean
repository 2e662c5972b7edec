import JobNode.Proofs.Manager.EndToEnd

/-!
# What is announced

When the finalizer of an execution has sent its outcome, a message goes out about the job, if the
execution has created it and the finalizer could read it.  The message tells what the record has
settled to.  Whether that record was saved makes no difference: this is where messages and records
may part.

* `announces_of_step`: a message goes out with the outcome only.
* `Snapped.announces`: which messages go out, and when they agree with what was saved.
* `Traffic.announced_when_read`: the same for every execution of a manager.
-/

namespace JobNode.Manager

open Procedure (Exchange saves)

/-- A message says of a job what its record says: the text is that of the last log entry. -/
structure Tells (message : Notification) (job : Job) : Prop where
  account : message.accountId = job.account.toText
  document : message.documentId = job.id.toText
  status : message.status = job.status.toText
  text : message.message = (job.logs.getLast?.map (·.message)).getD ""

/-- A message goes out just when the execution has created the job and saved what it settles to; it
is the only one, and tells the saved record. -/
def AnnouncesSaved (a : Assignment) (passed : List Exchange) (sent : List Notification) : Prop :=
  (sent ≠ [] ↔ a.created = true ∧ saves passed ≠ []) ∧
    ∀ message ∈ sent, sent = [message] ∧ ∃ job, saves passed = [job] ∧ Tells message job

theorem tells_jobCompleted (job : Job) (now : Instant) :
    Tells (.jobCompleted job.account job now) job where
  account := rfl
  document := rfl
  status := rfl
  text := by
    change job.lastMessage = _
    rw [Job.lastMessage, Job.lastLog?]
    cases job.logs.getLast? <;> rfl

/-! ## Steps -/

/-- Nothing was announced before the outcome was sent, and then what the result calls for. -/
def Stage.Announces (h : List Mark) : Stage → Prop
  | .running call _ =>
    match call.phase with
    | .ended f => ∃ now, messages h = (announcement? call.assignment f now).toList
    | _ => messages h = []
  | _ => messages h = []

variable {r : Request} {m m' : Memory} {h marks : List Mark} {before after : Stage}

theorem Stage.Announces.append {stage : Stage} (announces : stage.Announces h)
    (silent : messages marks = []) : stage.Announces (h ++ marks) := by
  unfold Stage.Announces at announces ⊢
  rw [messages_append, silent, List.append_nil]
  exact announces

theorem Stage.Announces.congr {call next : Call}
    {finalizer? other? : Option (Branch × Procedure Finalized)}
    (announces : (Stage.running call finalizer?).Announces h)
    (assignment : next.assignment = call.assignment) (phase : next.phase = call.phase) :
    (Stage.running next other?).Announces h := by
  simp only [Stage.Announces, assignment, phase] at announces ⊢
  exact announces

/-- Only the step that sends the outcome announces anything. -/
theorem announces_of_step (announces : before.Announces h)
    (step : Execution.Step r m before marks after m') : after.Announces (h ++ marks) := by
  have unmarked (passed : List Exchange) : messages (passed.map .exchanged) = [] := by
    simp [messages, Mark.message?]
  cases step with
  | @prepare rest rest' c passed m' moves =>
    have same : (Stage.opening rest' c).Announces h := announces
    exact same.append (unmarked passed)
  | @enter job created c =>
    have silent : messages h = [] := announces
    change messages (h ++ _) = []
    rw [messages_append, silent]
    rfl
  | @refuse cause c =>
    have same : (Stage.refused cause).Announces h := announces
    exact same.append rfl
  | @cancelOpening rest c =>
    have same : (Stage.opening rest true).Announces h := announces
    exact same.append rfl
  | cancelRefused => exact announces.append rfl
  | cancelRunning => exact (announces.append rfl).congr rfl rfl
  | endWork still => exact (announces.append rfl).congr rfl rfl
  | @choose call finalizer? branch watching way =>
    have silent : messages h = [] := by
      simpa only [Stage.Announces, watching] using announces
    change messages (h ++ _) = []
    rw [messages_append, silent]
    rfl
  | @finalize call branch rest rest' passed m' moves =>
    exact (announces.append (unmarked passed)).congr rfl rfl
  | @finish call branch chosen f now finalizing =>
    have silent : messages h = [] := by
      simpa only [Stage.Announces, finalizing] using announces
    refine ⟨now, ?_⟩
    rw [messages_append, silent]
    cases announcement? call.assignment f now <;> rfl
  | receive listening => exact (announces.append rfl).congr rfl rfl
  | stopListening => exact (announces.append rfl).congr rfl rfl

/-! ## Results -/

/-- The snapshot is what the record that was read settles to; it was saved, or could not be. -/
def Snapped (a : Assignment) (branch : Branch) (past : List Exchange) (f : Finalized) : Prop :=
  f.snapshot = none ∧ past = [] ∨
    ∃ t job, job.key = a.key ∧ f.snapshot = some (branch.settled a t job) ∧
      (past = [.found job] ∨ past = [.found job, .saved (branch.settled a t job)])

theorem finalize_snaps (a : Assignment) (branch : Branch) :
    (finalize a branch).Ends (Snapped a branch) [] := by
  cases branch with
  | completion last =>
    refine ⟨fun e => .inl ⟨rfl, rfl⟩, fun job own t => ⟨fun e => ?_, ?_⟩⟩
    · rw [completed_eq_settled]
      exact .inr ⟨t, job, own, rfl, .inl rfl⟩
    · rw [completed_eq_settled]
      exact .inr ⟨t, job, own, rfl, .inr rfl⟩
  | cancellation =>
    refine ⟨fun e => .inl ⟨rfl, rfl⟩, fun job own t => ⟨fun e => ?_, ?_⟩⟩
    · rw [addLog_eq_settled]
      exact .inr ⟨t, job, own, rfl, .inl rfl⟩
    · rw [addLog_eq_settled]
      exact .inr ⟨t, job, own, rfl, .inr rfl⟩

theorem announcement?_eq_none {a : Assignment} {f : Finalized}
    (none : a.created = false ∨ f.snapshot = none) (now : Instant) :
    announcement? a f now = .none := by
  unfold announcement?
  split
  next created taken => simp [created, taken] at none
  · rfl

theorem announcement?_eq_some {a : Assignment} {f : Finalized} {job : Job}
    (created : a.created = true) (taken : f.snapshot = some job) (now : Instant) :
    announcement? a f now = some (.jobCompleted a.account job now) := by
  unfold announcement?
  rw [created, taken]

/-- What was read decides whether a message goes out, what was saved decides whether that was
right. -/
theorem Snapped.announces {a : Assignment} {branch : Branch} {past : List Exchange} {f : Finalized}
    (snapped : Snapped a branch past f) (now : Instant) :
    let sent := (announcement? a f now).toList
    (sent ≠ [] ↔ a.created = true ∧ ∃ job, .found job ∈ past) ∧
    (∀ message ∈ sent, sent = [message] ∧
      ∃ t job, job.key = a.key ∧ Tells message (branch.settled a t job) ∧
        (past = [.found job] ∨ past = [.found job, .saved (branch.settled a t job)])) ∧
    (AnnouncesSaved a past sent ↔
      (a.created = true → (∃ job, .found job ∈ past) → saves past ≠ [])) := by
  intro sent
  rcases snapped with ⟨untaken, rfl⟩ | ⟨t, job, own, taken, passed⟩
  · have silent : sent = [] := by
      change (announcement? a f now).toList = []
      rw [announcement?_eq_none (.inr untaken)]
      rfl
    rw [silent, AnnouncesSaved]
    simp [saves]
  have found : Exchange.found job ∈ past := by rcases passed with rfl | rfl <;> exact .head _
  cases created : a.created with
  | false =>
    have silent : sent = [] := by
      change (announcement? a f now).toList = []
      rw [announcement?_eq_none (.inl created)]
      rfl
    rw [silent, AnnouncesSaved]
    simp [created]
  | true =>
    have spoken : sent = [.jobCompleted a.account (branch.settled a t job) now] := by
      change (announcement? a f now).toList = _
      rw [announcement?_eq_some created taken]
      rfl
    have account : a.account = (branch.settled a t job).account := (JobKey.mk.inj own).1.symm
    have tells := tells_jobCompleted (branch.settled a t job) now
    rw [← account] at tells
    rw [spoken]
    refine ⟨?_, fun message mem => ?_, ?_⟩
    · exact ⟨fun _ => ⟨rfl, job, found⟩, fun _ => List.cons_ne_nil _ _⟩
    · cases List.mem_singleton.1 mem
      exact ⟨rfl, t, job, own, tells, passed⟩
    · -- the message is out already, so all depends on the save
      constructor
      · rintro ⟨just, -⟩ _ _
        exact (just.1 (List.cons_ne_nil _ _)).2
      · intro kept
        have saved := kept rfl ⟨job, found⟩
        rcases passed with rfl | rfl
        · exact absurd rfl saved
        · refine ⟨⟨fun _ => ⟨created, saved⟩, fun _ => List.cons_ne_nil _ _⟩, fun message mem => ?_⟩
          cases List.mem_singleton.1 mem
          exact ⟨rfl, _, rfl, tells⟩

theorem offers_of_refused {cause : Error} (accords : (Stage.refused cause).Accords r h) :
    offers h = [] := by
  refine List.eq_nil_iff_forall_not_mem.2 fun outcome mem => ?_
  rcases accords.2.1 _ (mem_offers.1 mem) with early | entry
  · cases early
  · cases entry

/-- Before the outcome is sent nothing is announced. -/
theorem messages_of_unsent {stage : Stage} (accords : stage.Accords r h)
    (announces : stage.Announces h) (unsent : offers h = []) : messages h = [] := by
  cases stage with
  | opening rest c => exact announces
  | refused cause => exact announces
  | running call finalizer? =>
    have running : Running r call finalizer? h := accords
    have sent := running.offers
    cases phase : call.phase with
    | ended f =>
      rw [unsent, Call.sent?, phase] at sent
      cases sent
    | watching | finalizing branch => simpa only [Stage.Announces, phase] using announces

/-- Once the outcome is sent, the finalizer has ended and its result was announced. -/
theorem snapped_of_sent {stage : Stage} (accords : stage.Accords r h) (comes : stage.Comes Snapped h)
    (announces : stage.Announces h) (sent : offers h ≠ []) :
    ∃ a branch earlier later f now, h = earlier ++ .chose a branch :: later ∧ Entered r a h ∧
      Snapped a branch (exchanges later) f ∧ messages h = (announcement? a f now).toList := by
  cases stage with
  | opening rest c =>
    have quiet : ∀ mark ∈ h, mark.isQuiet := fun mark mem =>
      Mark.isQuiet_of_isEarly (accords.1 mark mem)
    exact absurd (offers_of_quiet quiet) sent
  | refused cause => exact absurd (offers_of_refused accords) sent
  | running call finalizer? =>
    have running : Running r call finalizer? h := accords
    have finalizer := running.finalizer
    rw [running.offers, Call.sent?] at sent
    cases phase : call.phase with
    | watching | finalizing branch =>
      rw [phase] at sent
      exact absurd rfl sent
    | ended f =>
      simp only [Stage.Announces, phase] at announces
      obtain ⟨now, spoken⟩ := announces
      cases finalizer? with
      | none => simp [Finalizing, phase] at finalizer
      | some begun =>
        obtain ⟨branch, rest⟩ := begun
        rcases finalizer with finalizing | ⟨result, ended, rfl⟩
        · simp [phase] at finalizing
        · rw [phase] at ended
          cases ended
          obtain ⟨earlier, later, split, snapped⟩ := comes
          exact ⟨_, branch, earlier, later, f, now, split, running.entered, snapped, spoken⟩

/-! ## Runs -/

namespace Traffic

/-- How far the executions of a manager have come accords with what they have announced. -/
def Announcing : Traffic → List Mark → Prop :=
  AllKeep fun x h => x.stage.Accords x.request h ∧ x.stage.Comes Snapped h ∧ x.stage.Announces h

theorem announcing_of_run {m : Memory} {n : Nat} {events : List Event} {s : Traffic}
    (run : (create m n).run? events = some s) : Announcing s ((create m n).history events) := by
  refine Run.history_induction (fun before happens => ?_)
    ⟨fun _ _ at_ => (nomatch at_), fun _ _ => rfl⟩ run
  refine AllKeep.step before (fun r => ⟨accords_create r, trivial, rfl⟩) ?_ (step_of_apply happens)
  intro x y m m' past marks ⟨accords, comes, announces⟩ step same
  rw [same]
  exact ⟨accords_of_step accords step, comes_of_step finalize_snaps comes step,
    announces_of_step announces step⟩

/-- **A message goes out about what was read, saved or not.**  However executions alternate and
whichever accesses to the store fail, all messages come from executions, and an execution sends none
before its outcome.  Afterwards it has sent one if it has created its job and its finalizer could
read it again, else none; the message tells what that record settles to.  So messages agree with
what was saved just when no finalizer failed to save the record of a job that its execution had
created and that it could read. -/
theorem announced_when_read {m : Memory} {n : Nat} {events : List Event} {s : Traffic}
    (run : (create m n).run? events = some s) {i : Nat} {x : Execution}
    (at_ : s.executions[i]? = some x) :
    let all := (create m n).history events
    let h := of i all
    dispatched s.deliveries = allMessages all ∧
    (offers h = [] → messages h = []) ∧
    (offers h ≠ [] → ∃ a branch earlier later, h = earlier ++ .chose a branch :: later ∧
      Entered x.request a h ∧
      (messages h ≠ [] ↔ a.created = true ∧ ∃ job, .found job ∈ exchanges later) ∧
      (∀ message ∈ messages h, messages h = [message] ∧
        ∃ t job, job.key = a.key ∧ Tells message (branch.settled a t job) ∧
          (exchanges later = [.found job] ∨
            exchanges later = [.found job, .saved (branch.settled a t job)])) ∧
      (AnnouncesSaved a (exchanges later) (messages h) ↔
        (a.created = true → (∃ job, .found job ∈ exchanges later) →
          saves (exchanges later) ≠ []))) := by
  intro all h
  obtain ⟨accords, comes, announces⟩ := (announcing_of_run run).1 i x at_
  refine ⟨(stored_of_run run).messages, messages_of_unsent accords announces, fun sent => ?_⟩
  obtain ⟨a, branch, earlier, later, f, now, split, entered, snapped, spoken⟩ :=
    snapped_of_sent accords comes announces sent
  have result := snapped.announces now
  rw [← spoken] at result
  exact ⟨a, branch, earlier, later, split, entered, result⟩

/-- A call whose work ends well.  The last answer of the store, to the save of the finalizer, is
open. -/
def sampleAnnounced (last : Procedure.Reply) : List Event :=
  .request ⟨sampleAccount, none, "demo"⟩ ::
    List.map (.execution 0)
      [.prepare (.identifier ⟨.ofNat 4⟩), .prepare (.time .epoch), .prepare .served, .enter,
        .endWork (.ok ()), .choose, .finalize .served, .finalize (.time .epoch), .finalize last,
        .finish .epoch]

theorem sampleAnnounced_when_read :
    let events := sampleAnnounced .served
    let h := of 0 ((create .empty 1).history events)
    ∃ s x, (create .empty 1).run? events = some s ∧ s.executions[0]? = some x ∧ offers h ≠ [] ∧
      dispatched s.deliveries = allMessages ((create .empty 1).history events) ∧
      ∃ a branch earlier later, h = earlier ++ .chose a branch :: later ∧
        (messages h ≠ [] ↔ a.created = true ∧ ∃ job, .found job ∈ exchanges later) := by
  intro events h
  have run : (create .empty 1).run? events = some _ := rfl
  have sent : offers h ≠ [] := List.cons_ne_nil _ _
  obtain ⟨handed, -, after⟩ := announced_when_read run (i := 0) rfl
  obtain ⟨a, branch, earlier, later, split, -, spoken, -⟩ := after sent
  exact ⟨_, _, run, rfl, sent, handed, a, branch, earlier, later, split, spoken⟩

/-- The save of the finalizer fails.  The job is announced as a success and stays pending. -/
theorem unsaved_success_announced :
    let events := sampleAnnounced (.failed (.other "full"))
    let h := of 0 ((create .empty 1).history events)
    ∃ s job a branch earlier later, (create .empty 1).run? events = some s ∧
      s.memory.get? ⟨sampleAccount, ⟨.ofNat 4⟩⟩ = some job ∧ job.status = .pending ∧
      (dispatched s.deliveries).map (·.status) = ["success"] ∧
      h = earlier ++ .chose a branch :: later ∧ a.key = job.key ∧ a.created = true ∧
      saves (exchanges later) = [] ∧ ¬ AnnouncesSaved a (exchanges later) (messages h) := by
  intro events h
  have run : (create .empty 1).run? events = some _ := rfl
  have split : h = h.take 4 ++
      .chose ⟨sampleAccount, ⟨.ofNat 4⟩, "demo", true⟩ (.completion (.ok ())) :: h.drop 5 := rfl
  refine ⟨_, _, _, _, _, _, run, rfl, rfl, rfl, split, rfl, rfl, rfl, ?_⟩
  rintro ⟨just, -⟩
  exact (just.1 (List.cons_ne_nil _ _)).2 rfl

end Traffic

end JobNode.Manager
