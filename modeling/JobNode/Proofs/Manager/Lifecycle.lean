import JobNode.Proofs.Manager.Finalization
import JobNode.Proofs.Manager.History

/-!
# The life of an execution

An execution either gives its caller an error and has done nothing, or it opens one job, calls the
work once, chooses one way to finalize, and puts one outcome into the channel.

* `accords_of_step`: how far an execution has come accords with what has happened to it.
* `timely_of_step`: what happens comes in its order.
* `comes_of_step`, `results_of_step`: the finalizer comes to the result of the way that was chosen.
-/

namespace JobNode.Manager

open Procedure (Exchange saves)

namespace Mark

/-- It may happen before the caller has its answer. -/
def isEarly : Mark → Bool
  | exchanged _ | cancelled => true
  | _ => false

/-- The work is called, or the caller gets its answer. -/
def isEntry : Mark → Bool
  | invoked _ | returned _ => true
  | _ => false

/-- It tells of nothing that may happen only once. -/
def isQuiet : Mark → Bool
  | exchanged _ | cancelled | announced _ | dropped => true
  | _ => false

theorem isQuiet_of_isEarly {mark : Mark} (early : mark.isEarly) : mark.isQuiet := by
  cases mark <;> first | rfl | cases early

end Mark

/-! ## Opening a job -/

/-- What opening the job of a request has to do with what passed between it and the store: a job
that was created is new, and was saved without any other being found, and a job that was found is the
one that was named, and nothing was saved. -/
def Opened (r : Request) (past : List Exchange) : Except Error (Job × Bool) → Prop
  | .error _ => saves past = []
  | .ok (job, true) =>
    past = [.saved job] ∧ ∃ t, job = Job.create job.id r.account r.description t
  | .ok (job, false) =>
    past = [.found job] ∧ job.account = r.account ∧ r.existing = some job.id

theorem createJob_ends (r : Request) :
    (createJob r.account r.description).Ends (Opened r) [] := by
  intro id t
  exact ⟨fun cause => rfl, rfl, t, rfl⟩

theorem openJob_ends (r : Request) :
    (openJob r.account r.existing r.description).Ends (Opened r) [] := by
  unfold openJob
  cases existing : r.existing with
  | none => exact createJob_ends r
  | some id =>
    refine ⟨fun cause => ?_, fun job own => ?_⟩
    · simp only
      split
      · exact createJob_ends r
      · rfl
    · obtain ⟨account, same⟩ := JobKey.mk.inj own
      refine ⟨rfl, account, ?_⟩
      rw [existing, same]

/-! ## How far an execution has come -/

namespace Call

/-- The outcome, once it was sent. -/
def sent? (call : Call) : Option (Except Error Unit) :=
  match call.phase with
  | .ended f => some f.outcome
  | _ => none

end Call

/-- The caller got the job of the assignment, and the work was called for it: once each, after the
job was opened. -/
def Entered (r : Request) (a : Assignment) (h : List Mark) : Prop :=
  ∃ opening later job,
    h = opening ++ .invoked a.key :: .returned (.ok a.id) :: later ∧
    (∀ mark ∈ opening, mark.isEarly) ∧
    (∀ mark ∈ later, mark.isEntry = false) ∧
    Opened r (exchanges opening) (.ok (job, a.created)) ∧
    a.account = r.account ∧ a.id = job.id ∧ a.description = job.description

/-- The channel holds the outcome until it is taken. -/
def Carries (call : Call) (h : List Mark) : Prop :=
  match call.channel with
  | .empty => call.sent? = none ∧ receipts h = []
  | .full outcome => call.sent? = some outcome ∧ receipts h = []
  | .closed =>
    ∃ outcome, call.sent? = some outcome ∧
      (receipts h = [outcome] ∨ call.listening = false ∧ receipts h = [])

/-- The finalizer is there once the way is chosen, and has ended when the outcome is sent. -/
def Finalizing (phase : CallPhase) : Option (Branch × Procedure Finalized) → Prop
  | none => phase = .watching
  | some (branch, rest) =>
    phase = .finalizing branch ∨ ∃ f, phase = .ended f ∧ rest = .done f

/-- What has happened to an execution whose work was started. -/
structure Running (r : Request) (call : Call) (finalizer? : Option (Branch × Procedure Finalized))
    (h : List Mark) : Prop where
  entered : Entered r call.assignment h
  cancelled : .cancelled ∈ h ↔ call.cancelled = true
  ends : ends h = call.work.toList
  choices : choices h = (finalizer?.map (·.1)).toList
  offers : offers h = call.sent?.toList
  channel : Carries call h
  finalizer : Finalizing call.phase finalizer?

/-- How far an execution of a request has come accords with what has happened to it. -/
def Stage.Accords (r : Request) (h : List Mark) : Stage → Prop
  | .opening rest c =>
    (∀ mark ∈ h, mark.isEarly) ∧ (.cancelled ∈ h ↔ c = true) ∧ rest.Ends (Opened r) (exchanges h)
  | .refused cause =>
    h.filter Mark.isEntry = [.returned (.error cause)] ∧
      (∀ mark ∈ h, mark.isEarly ∨ mark.isEntry) ∧ saves (exchanges h) = []
  | .running call finalizer? => Running r call finalizer? h

theorem accords_create (r : Request) : (Execution.create r).stage.Accords r [] :=
  ⟨fun _ mem => (nomatch mem), ⟨fun mem => (nomatch mem), fun eq => (nomatch eq)⟩, openJob_ends r⟩

variable {r : Request} {m m' : Memory} {h marks : List Mark} {before after : Stage}

theorem early_append_exchanged {passed : List Exchange} (early : ∀ mark ∈ h, mark.isEarly) :
    ∀ mark ∈ h ++ passed.map .exchanged, mark.isEarly := by
  intro mark mem
  rcases List.mem_append.1 mem with old | new
  · exact early mark old
  · obtain ⟨x, -, rfl⟩ := List.mem_map.1 new
    rfl

theorem filter_isEntry_of_early (early : ∀ mark ∈ h, mark.isEarly) :
    h.filter Mark.isEntry = [] := by
  refine List.filter_eq_nil_iff.2 fun mark mem entry => ?_
  have first := early mark mem
  cases mark <;> simp_all [Mark.isEarly, Mark.isEntry]

theorem quiet_exchanged (passed : List Exchange) :
    ∀ mark ∈ passed.map Mark.exchanged, mark.isQuiet := by
  intro mark mem
  obtain ⟨x, -, rfl⟩ := List.mem_map.1 mem
  rfl

theorem eq_nil_of_quiet {β : Type} {pick : Mark → Option β}
    (other : ∀ mark, mark.isQuiet → pick mark = none) (quiet : ∀ mark ∈ h, mark.isQuiet) :
    h.filterMap pick = [] :=
  List.filterMap_eq_nil_iff.2 fun mark mem => other mark (quiet mark mem)

theorem ends_of_quiet (quiet : ∀ mark ∈ h, mark.isQuiet) : ends h = [] :=
  eq_nil_of_quiet (fun mark silent => by cases mark <;> first | rfl | cases silent) quiet

theorem choices_of_quiet (quiet : ∀ mark ∈ h, mark.isQuiet) : choices h = [] :=
  eq_nil_of_quiet (fun mark silent => by cases mark <;> first | rfl | cases silent) quiet

theorem offers_of_quiet (quiet : ∀ mark ∈ h, mark.isQuiet) : offers h = [] :=
  eq_nil_of_quiet (fun mark silent => by cases mark <;> first | rfl | cases silent) quiet

theorem receipts_of_quiet (quiet : ∀ mark ∈ h, mark.isQuiet) : receipts h = [] :=
  eq_nil_of_quiet (fun mark silent => by cases mark <;> first | rfl | cases silent) quiet

/-! ## Steps -/

theorem Entered.append {a : Assignment} (entered : Entered r a h)
    (later : ∀ mark ∈ marks, mark.isEntry = false) : Entered r a (h ++ marks) := by
  obtain ⟨opening, rest, job, rfl, early, noEntry, opened, fields⟩ := entered
  refine ⟨opening, rest ++ marks, job, by simp, early, fun mark mem => ?_, opened, fields⟩
  rcases List.mem_append.1 mem with old | new
  · exact noEntry mark old
  · exact later mark new

/-- The work is called for the job that was opened. -/
theorem running_of_enter {job : Job} {created c : Bool} (early : ∀ mark ∈ h, mark.isEarly)
    (cancelled : .cancelled ∈ h ↔ c = true) (opened : Opened r (exchanges h) (.ok (job, created))) :
    Running r
      { Call.create ⟨r.account, job.id, job.description, created⟩ with cancelled := c } none
      (h ++ [.invoked ⟨r.account, job.id⟩, .returned (.ok job.id)]) := by
  have quiet : ∀ mark ∈ h, mark.isQuiet := fun mark mem =>
    Mark.isQuiet_of_isEarly (early mark mem)
  refine
    { entered := ⟨h, [], job, rfl, early, fun _ mem => (nomatch mem), opened, rfl, rfl, rfl⟩
      cancelled := by simpa [Call.create] using cancelled
      ends := by rw [ends_append, ends_of_quiet quiet]; rfl
      choices := by rw [choices_append, choices_of_quiet quiet]; rfl
      offers := by rw [offers_append, offers_of_quiet quiet]; rfl
      channel := ⟨rfl, by rw [receipts_append, receipts_of_quiet quiet]; rfl⟩
      finalizer := rfl }

theorem Carries.append {call : Call} (carries : Carries call h) (none : receipts marks = []) :
    Carries call (h ++ marks) := by
  unfold Carries
  rw [receipts_append, none, List.append_nil]
  exact carries

namespace Running

variable {call : Call} {finalizer? : Option (Branch × Procedure Finalized)}

/-- Quiet marks leave everything as it is, if they are no cancellation. -/
theorem note (before : Running r call finalizer? h) (quiet : ∀ mark ∈ marks, mark.isQuiet)
    (notCancelled : .cancelled ∉ marks) : Running r call finalizer? (h ++ marks) where
  entered := before.entered.append fun mark mem => by
    have silent := quiet mark mem
    cases mark <;> first | rfl | cases silent
  cancelled := by simpa [notCancelled] using before.cancelled
  ends := by rw [ends_append, ends_of_quiet quiet, List.append_nil, before.ends]
  choices := by rw [choices_append, choices_of_quiet quiet, List.append_nil, before.choices]
  offers := by rw [offers_append, offers_of_quiet quiet, List.append_nil, before.offers]
  channel := before.channel.append (receipts_of_quiet quiet)
  finalizer := before.finalizer

theorem cancel (before : Running r call finalizer? h) :
    Running r call.cancel finalizer? (h ++ [.cancelled]) where
  entered := before.entered.append (by simp [Mark.isEntry])
  cancelled := by simp [Call.cancel]
  ends := by rw [ends_append, before.ends]; exact List.append_nil _
  choices := by rw [choices_append, before.choices]; exact List.append_nil _
  offers := by rw [offers_append, before.offers]; exact List.append_nil _
  channel := before.channel.append rfl
  finalizer := before.finalizer

theorem endWork {last : WorkEnd} (before : Running r call finalizer? h) (still : call.work = none) :
    Running r (call.endWork last) finalizer? (h ++ [.worked last]) where
  entered := before.entered.append (by simp [Mark.isEntry])
  cancelled := by simpa [Call.endWork] using before.cancelled
  ends := by rw [ends_append, before.ends, Call.endWork, still]; rfl
  choices := by rw [choices_append, before.choices]; exact List.append_nil _
  offers := by rw [offers_append, before.offers]; exact List.append_nil _
  channel := before.channel.append rfl
  finalizer := before.finalizer

/-- A call that still watches has sent nothing. -/
theorem channel_of_not_sent (before : Running r call finalizer? h) (unsent : call.sent? = none) :
    call.channel = .empty ∧ receipts h = [] := by
  have carries := before.channel
  unfold Carries at carries
  split at carries
  next empty => exact ⟨empty, carries.2⟩
  next outcome _ => simp [unsent] at carries
  next =>
    obtain ⟨outcome, sent, -⟩ := carries
    simp [unsent] at sent

/-- A call that still watches has no finalizer. -/
theorem finalizer_eq_none (before : Running r call finalizer? h)
    (watching : call.phase = .watching) : finalizer? = none := by
  have finalizer := before.finalizer
  cases finalizer? with
  | none => rfl
  | some chosen =>
    rcases finalizer with finalizing | ⟨f, ended, -⟩
    · simp [watching] at finalizing
    · simp [watching] at ended

/-- While the finalizer has steps to go the outcome is not sent. -/
theorem finalizing_of_step {branch : Branch} {rest rest' : Procedure Finalized}
    {passed : List Exchange} (before : Running r call (some (branch, rest)) h)
    (moves : Procedure.Step m rest passed rest' m') : call.phase = .finalizing branch := by
  rcases before.finalizer with finalizing | ⟨f, -, rfl⟩
  · exact finalizing
  · cases moves

theorem choose {branch : Branch} {rest : Procedure Finalized} (before : Running r call finalizer? h)
    (watching : call.phase = .watching) :
    Running r { call with phase := .finalizing branch } (some (branch, rest))
      (h ++ [.chose call.assignment branch]) := by
  have none := before.finalizer_eq_none watching
  have unsent : call.sent? = .none := by rw [Call.sent?, watching]
  obtain ⟨empty, untaken⟩ := before.channel_of_not_sent unsent
  refine
    { entered := before.entered.append (by simp [Mark.isEntry])
      cancelled := by simpa using before.cancelled
      ends := ?_
      choices := ?_
      offers := ?_
      channel := ?_
      finalizer := .inl rfl }
  · rw [ends_append, before.ends]
    exact List.append_nil _
  · rw [choices_append, before.choices, none]
    rfl
  · rw [offers_append, before.offers, unsent]
    rfl
  · unfold Carries
    rw [empty, receipts_append, untaken]
    exact ⟨rfl, rfl⟩

theorem finalize {branch : Branch} {rest rest' : Procedure Finalized} {passed : List Exchange}
    (before : Running r call (some (branch, rest)) h)
    (moves : Procedure.Step m rest passed rest' m') :
    Running r call (some (branch, rest')) (h ++ passed.map .exchanged) := by
  have noted := before.note (quiet_exchanged passed) (by simp)
  exact { noted with finalizer := .inl (before.finalizing_of_step moves) }

theorem finish {branch chosen : Branch} {f : Finalized}
    (before : Running r call (some (branch, .done f)) h)
    (finalizing : call.phase = .finalizing chosen) :
    Running r
      { call with
        phase := .ended f
        channel := if call.listening then .full f.outcome else .closed }
      (some (branch, .done f)) (h ++ [.offered f.outcome]) := by
  have unsent : call.sent? = none := by rw [Call.sent?, finalizing]
  obtain ⟨-, untaken⟩ := before.channel_of_not_sent unsent
  have taken : receipts (h ++ [.offered f.outcome]) = [] := by
    rw [receipts_append, untaken]
    rfl
  refine
    { entered := before.entered.append (by simp [Mark.isEntry])
      cancelled := by simpa using before.cancelled
      ends := ?_
      choices := ?_
      offers := ?_
      channel := ?_
      finalizer := .inr ⟨f, rfl, rfl⟩ }
  · rw [ends_append, before.ends]
    exact List.append_nil _
  · rw [choices_append, before.choices]
    rfl
  · rw [offers_append, before.offers, unsent]
    rfl
  · cases listening : call.listening with
    | true => exact ⟨rfl, taken⟩
    | false => exact ⟨f.outcome, rfl, .inr ⟨rfl, taken⟩⟩

theorem receive (before : Running r call finalizer? h) (listening : call.listening = true) :
    Running r call.receive.2 finalizer? (h ++ [.received call.receive.1]) := by
  refine
    { entered := before.entered.append (by simp [Mark.isEntry])
      cancelled := by simpa [Call.receive] using before.cancelled
      ends := ?_
      choices := ?_
      offers := ?_
      channel := ?_
      finalizer := before.finalizer }
  · rw [ends_append, before.ends]
    exact List.append_nil _
  · rw [choices_append, before.choices]
    exact List.append_nil _
  · rw [offers_append, before.offers]
    exact List.append_nil _
  · have carries := before.channel
    unfold Carries at carries
    split at carries
    next empty =>
      simp only [Carries, Call.receive, DoneChannel.receive, empty, receipts_append, carries.2]
      exact ⟨carries.1, rfl⟩
    next outcome full =>
      simp only [Carries, Call.receive, DoneChannel.receive, full, receipts_append, carries.2]
      exact ⟨outcome, carries.1, .inl rfl⟩
    next closed =>
      obtain ⟨outcome, sent, taken | ⟨deaf, -⟩⟩ := carries
      · simp only [Carries, Call.receive, DoneChannel.receive, closed, receipts_append, taken]
        exact ⟨outcome, sent, .inl rfl⟩
      · simp [listening] at deaf

theorem stopListening (before : Running r call finalizer? h) :
    Running r call.stopListening finalizer? (h ++ [.dropped]) := by
  have quiet : ∀ mark ∈ [Mark.dropped], mark.isQuiet := by simp [Mark.isQuiet]
  have noted := before.note quiet (by simp)
  refine { noted with channel := ?_ }
  have carries := noted.channel
  unfold Carries at carries
  split at carries
  next empty =>
    simp only [Carries, Call.stopListening, empty]
    exact carries
  next outcome full =>
    simp only [Carries, Call.stopListening, full]
    exact carries
  next closed =>
    obtain ⟨outcome, sent, taken⟩ := carries
    simp only [Carries, Call.stopListening, closed]
    refine ⟨outcome, sent, ?_⟩
    rcases taken with taken | ⟨-, untaken⟩
    · exact .inl taken
    · exact .inr ⟨trivial, untaken⟩

end Running

/-- Every step keeps what has happened in accord with how far the execution has come. -/
theorem accords_of_step (accords : before.Accords r h)
    (step : Execution.Step r m before marks after m') : after.Accords r (h ++ marks) := by
  cases step with
  | prepare moves =>
    obtain ⟨early, cancelled, ends⟩ := accords
    refine ⟨early_append_exchanged early, by simpa using cancelled, ?_⟩
    rw [exchanges_append, exchanges_map]
    exact ends.step moves
  | enter =>
    obtain ⟨early, cancelled, opened⟩ := accords
    exact running_of_enter early cancelled opened
  | refuse =>
    obtain ⟨early, -, opened⟩ := accords
    refine ⟨?_, fun mark mem => ?_, ?_⟩
    · rw [List.filter_append, filter_isEntry_of_early early]
      rfl
    · rcases List.mem_append.1 mem with old | new
      · exact .inl (early mark old)
      · cases List.mem_singleton.1 new
        exact .inr rfl
    · rw [exchanges_concat rfl]
      exact opened
  | cancelOpening =>
    obtain ⟨early, -, ends⟩ := accords
    refine ⟨fun mark mem => ?_, by simp, ?_⟩
    · rcases List.mem_append.1 mem with old | new
      · exact early mark old
      · cases List.mem_singleton.1 new
        rfl
    · rw [exchanges_concat rfl]
      exact ends
  | cancelRefused =>
    obtain ⟨answer, kinds, unsaved⟩ := accords
    refine ⟨?_, fun mark mem => ?_, ?_⟩
    · rw [List.filter_append, answer]
      rfl
    · rcases List.mem_append.1 mem with old | new
      · exact kinds mark old
      · cases List.mem_singleton.1 new
        exact .inl rfl
    · rw [exchanges_concat rfl]
      exact unsaved
  | cancelRunning => exact Running.cancel accords
  | endWork still => exact Running.endWork accords still
  | choose watching way => exact Running.choose accords watching
  | finalize moves => exact Running.finalize accords moves
  | finish finalizing =>
    have sent := Running.finish accords finalizing
    rw [List.append_cons]
    exact sent.note (fun mark mem => by
      obtain ⟨n, -, rfl⟩ := Option.map_eq_some_iff.1 (Option.mem_toList.1 mem); rfl) (by simp)
  | receive listening => exact Running.receive accords listening
  | stopListening => exact Running.stopListening accords

/-! ## Order -/

/-- When a mark may come.  Jobs are exchanged with the store before the work is called, or between the
choice and the outcome; the end of the work goes before a cancellation; and the caller receives what
was sent, once. -/
def Timely (past : List Mark) : Mark → Prop
  | .exchanged _ => (∀ mark ∈ past, mark.isEarly) ∨ choices past ≠ [] ∧ offers past = []
  | .chose _ (.completion last) => choices past = [] ∧ ends past = [last]
  | .chose _ .cancellation => choices past = [] ∧ ends past = [] ∧ .cancelled ∈ past
  | .offered _ => (∃ branch, choices past = [branch]) ∧ offers past = []
  | .announced _ => offers past ≠ []
  | .received .nothing => offers past = []
  | .received (.outcome value) => offers past = [value] ∧ receipts past = []
  | .received .closed => ∃ value, offers past = [value] ∧ receipts past = [value]
  | _ => True

theorem timely_choose {call : Call} {finalizer? : Option (Branch × Procedure Finalized)}
    {branch : Branch} (running : Running r call finalizer? h) (watching : call.phase = .watching)
    (way : branch? call.work call.cancelled = some branch) :
    Timely h (.chose call.assignment branch) := by
  have unchosen : choices h = [] := by
    rw [running.choices, running.finalizer_eq_none watching]
    rfl
  have ends := running.ends
  cases ended : call.work with
  | some last =>
    rw [ended] at ends way
    cases way
    exact ⟨unchosen, ends⟩
  | none =>
    rw [ended, branch?] at way
    rw [ended] at ends
    cases stopped : call.cancelled with
    | true =>
      rw [stopped] at way
      cases way
      exact ⟨unchosen, ends, running.cancelled.2 stopped⟩
    | false => simp [stopped] at way

theorem timely_receive {call : Call} {finalizer? : Option (Branch × Procedure Finalized)}
    (running : Running r call finalizer? h) (listening : call.listening = true) :
    Timely h (.received call.receive.1) := by
  have carries := running.channel
  unfold Carries at carries
  split at carries
  next empty =>
    simp only [Call.receive, DoneChannel.receive, empty, Timely]
    rw [running.offers, carries.1]
    rfl
  next outcome full =>
    simp only [Call.receive, DoneChannel.receive, full, Timely]
    rw [running.offers, carries.1]
    exact ⟨rfl, carries.2⟩
  next closed =>
    obtain ⟨outcome, sent, taken | ⟨deaf, -⟩⟩ := carries
    · simp only [Call.receive, DoneChannel.receive, closed, Timely]
      rw [running.offers, sent]
      exact ⟨outcome, rfl, taken⟩
    · simp [listening] at deaf

/-- Every step comes in its order. -/
theorem timely_of_step (accords : before.Accords r h) (timely : Run.Always Timely h)
    (step : Execution.Step r m before marks after m') : Run.Always Timely (h ++ marks) := by
  cases step with
  | @prepare rest rest' c passed m' moves =>
    -- before an exchange there are the earlier marks and the exchanges of the same step
    refine timely.append fun past mark later eq => ?_
    obtain ⟨first, second, rfl, rfl, more⟩ := List.map_eq_append_iff.1 eq
    obtain ⟨x, rest, rfl, rfl, -⟩ := List.map_eq_cons_iff.1 more
    exact .inl (early_append_exchanged accords.1)
  | @enter job created c =>
    have invoked : Timely h (.invoked ⟨r.account, job.id⟩) := trivial
    rw [List.append_cons]
    exact (timely.concat invoked).concat trivial
  | @refuse cause c =>
    have returned : Timely h (.returned (.error cause)) := trivial
    exact timely.concat returned
  | cancelOpening | cancelRefused | cancelRunning =>
    have cancelled : Timely h .cancelled := trivial
    exact timely.concat cancelled
  | endWork still => exact timely.concat trivial
  | choose watching way => exact timely.concat (timely_choose accords watching way)
  | @finalize call branch rest rest' passed m' moves =>
    have running : Running r call (some (branch, rest)) h := accords
    have unsent : call.sent? = none := by rw [Call.sent?, running.finalizing_of_step moves]
    refine timely.append fun past mark later eq => ?_
    obtain ⟨first, second, rfl, rfl, more⟩ := List.map_eq_append_iff.1 eq
    obtain ⟨x, rest, rfl, rfl, -⟩ := List.map_eq_cons_iff.1 more
    refine .inr ⟨?_, ?_⟩
    · rw [choices_append, running.choices]
      exact fun none => nomatch none
    · rw [offers_append, offers_of_quiet (quiet_exchanged first), running.offers, unsent]
      rfl
  | @finish call branch chosen f now finalizing =>
    have running : Running r call (some (branch, .done f)) h := accords
    have unsent : call.sent? = none := by rw [Call.sent?, finalizing]
    have offered : Timely h (.offered f.outcome) :=
      ⟨⟨branch, running.choices⟩, by rw [running.offers, unsent]; rfl⟩
    rw [List.append_cons]
    have sent := timely.concat offered
    cases announcement? call.assignment f now with
    | none => simpa using sent
    | some message =>
      refine sent.concat (d := .announced message) ?_
      change offers (h ++ [.offered f.outcome]) ≠ []
      rw [offers_append]
      exact fun none => nomatch (List.append_eq_nil_iff.1 none).2
  | receive listening => exact timely.concat (timely_receive accords listening)
  | stopListening => exact timely.concat trivial

/-! ## Results -/

/-- What the result of finalizing has to do with what passed between the finalizer and the store. -/
def Finished (a : Assignment) (branch : Branch) (past : List Exchange) (f : Finalized) : Prop :=
  (∃ e, f = ⟨none, report (branch.workError? a) (some e)⟩ ∧ saves past = []) ∨
    ∃ t job, .found job ∈ past ∧
      ((f = ⟨some (branch.settled a t job), report (branch.workError? a) none⟩ ∧
          saves past = [branch.settled a t job]) ∨
        ∃ e, f = ⟨some (branch.settled a t job), report (branch.workError? a) (some e)⟩ ∧
          saves past = [])

theorem finalize_ends (a : Assignment) (branch : Branch) :
    (finalize a branch).Ends (Finished a branch) [] := by
  cases branch with
  | completion last =>
    refine ⟨fun e => .inl ⟨e, ?_, rfl⟩, fun job own t => ⟨fun e => ?_, ?_⟩⟩
    · rw [workError?_completion, ← report_followed]
    · refine .inr ⟨t, job, List.mem_singleton.2 rfl, .inr ⟨e, ?_, rfl⟩⟩
      rw [workError?_completion, ← report_followed, ← completed_eq_settled]
    · refine .inr ⟨t, job, .head _, .inl ⟨?_, ?_⟩⟩
      · rw [workError?_completion, ← completed_eq_settled]
        cases failure? a last <;> rfl
      · rw [← completed_eq_settled]
        rfl
  | cancellation =>
    refine ⟨fun e => .inl ⟨e, rfl, rfl⟩, fun job own t => ⟨fun e => ?_, ?_⟩⟩
    · refine .inr ⟨t, job, List.mem_singleton.2 rfl, .inr ⟨e, ?_, rfl⟩⟩
      rw [← addLog_eq_settled]
      rfl
    · refine .inr ⟨t, job, .head _, .inl ⟨?_, ?_⟩⟩
      · rw [← addLog_eq_settled]
        rfl
      · rw [← addLog_eq_settled]
        rfl

/-- A finalizer that has begun comes to an end that fits the way that was chosen, and what has passed
between it and the store since. -/
def Stage.Comes (post : Assignment → Branch → List Exchange → Finalized → Prop) (h : List Mark) :
    Stage → Prop
  | .running call (some (branch, rest)) =>
    ∃ earlier later, h = earlier ++ .chose call.assignment branch :: later ∧
      rest.Ends (post call.assignment branch) (exchanges later)
  | _ => True

/-- A finalizer that has begun comes to the result of the way that was chosen. -/
def Stage.Results (h : List Mark) : Stage → Prop
  | .running call (some (branch, rest)) =>
    ∃ earlier later, h = earlier ++ .chose call.assignment branch :: later ∧
      rest.Ends (Finished call.assignment branch) (exchanges later)
  | _ => True

theorem Stage.results_iff {stage : Stage} : stage.Results h ↔ stage.Comes Finished h := by
  unfold Stage.Results Stage.Comes
  split <;> rfl

variable {post : Assignment → Branch → List Exchange → Finalized → Prop}

theorem Stage.Comes.append {stage : Stage} (comes : stage.Comes post h)
    (silent : exchanges marks = []) : stage.Comes post (h ++ marks) := by
  unfold Stage.Comes at comes ⊢
  split at comes
  · obtain ⟨earlier, later, rfl, ends⟩ := comes
    refine ⟨earlier, later ++ marks, by simp, ?_⟩
    rw [exchanges_append, silent, List.append_nil]
    exact ends
  · trivial

theorem Stage.Comes.congr {call next : Call}
    {finalizer? : Option (Branch × Procedure Finalized)}
    (comes : (Stage.running call finalizer?).Comes post h)
    (same : next.assignment = call.assignment) : (Stage.running next finalizer?).Comes post h := by
  cases finalizer? with
  | none => trivial
  | some begun =>
    obtain ⟨earlier, later, eq, ends⟩ := comes
    refine ⟨earlier, later, ?_, ?_⟩
    · rw [same]
      exact eq
    · rw [same]
      exact ends

/-- Every step of a finalizer leads to an end that finalizing has, whichever way was chosen. -/
theorem comes_of_step (start : ∀ a branch, (finalize a branch).Ends (post a branch) [])
    (comes : before.Comes post h) (step : Execution.Step r m before marks after m') :
    after.Comes post (h ++ marks) := by
  cases step with
  | prepare moves => trivial
  | enter => trivial
  | refuse => trivial
  | cancelOpening => trivial
  | cancelRefused => trivial
  | cancelRunning => exact (comes.append rfl).congr rfl
  | endWork still => exact (comes.append rfl).congr rfl
  | choose watching way => exact ⟨h, [], rfl, start _ _⟩
  | @finalize call branch rest rest' passed m' moves =>
    obtain ⟨earlier, later, rfl, ends⟩ := comes
    refine ⟨earlier, later ++ passed.map .exchanged, by simp, ?_⟩
    rw [exchanges_append, exchanges_map]
    exact ends.step moves
  | finish finalizing =>
    have silent (message? : Option Notification) (outcome : Except Error Unit) :
        exchanges (.offered outcome :: (message?.map .announced).toList) = [] := by
      cases message? <;> rfl
    exact (comes.append (silent _ _)).congr rfl
  | receive listening => exact (comes.append rfl).congr rfl
  | stopListening => exact (comes.append rfl).congr rfl

/-- Every step of a finalizer leads to the result of the way that was chosen. -/
theorem results_of_step (results : before.Results h)
    (step : Execution.Step r m before marks after m') : after.Results (h ++ marks) := by
  rw [Stage.results_iff] at results ⊢
  exact comes_of_step finalize_ends results step

end JobNode.Manager
