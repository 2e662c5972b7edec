import JobNode.Manager.Execution
import JobNode.Proofs.Manager.Steps

/-!
# What happens to an execution

The marks of an execution say what passed between it and the store, what its caller was told, when
its work was called and ended, which way to finalize was chosen, and what went through its channel.

* `Execution.Step`: the ways in which an execution may go on, with the marks of each.
* `Execution.step_of_apply`: every step goes one of these ways.
* `Execution.Step.exchange`: the jobs in memory change by what is exchanged with the store only.
-/

namespace JobNode.Manager

open Procedure (Exchange)

/-- What an observer of an execution notes. -/
inductive Mark where
  /-- A job passed between the execution and the store. -/
  | exchanged (x : Exchange)
  /-- The work was called for a job. -/
  | invoked (key : JobKey)
  /-- The caller got its answer. -/
  | returned (answer : Except Error JobId)
  | cancelled
  /-- The work has ended. -/
  | worked (last : WorkEnd)
  /-- The way to finalize the job was chosen. -/
  | chose (a : Assignment) (branch : Branch)
  /-- An outcome was put into the channel. -/
  | offered (outcome : Except Error Unit)
  /-- A message was handed over for delivery. -/
  | announced (message : Notification)
  /-- The caller looked into the channel. -/
  | received (what : Received)
  /-- The caller let go of the channel. -/
  | dropped

namespace Mark

/-- The exchange that was noted. -/
def exchange? : Mark → Option Exchange
  | exchanged x => some x
  | _ => none

/-- The end of the work that was noted. -/
def end? : Mark → Option WorkEnd
  | worked last => some last
  | _ => none

/-- The choice that was noted. -/
def choice? : Mark → Option Branch
  | chose _ branch => some branch
  | _ => none

/-- The outcome that was noted when it was put into the channel. -/
def offer? : Mark → Option (Except Error Unit)
  | offered outcome => some outcome
  | _ => none

/-- The message that was noted when it was handed over. -/
def message? : Mark → Option Notification
  | announced message => some message
  | _ => none

/-- The outcome that was noted when it was taken from the channel. -/
def receipt? : Mark → Option (Except Error Unit)
  | received (.outcome value) => some value
  | _ => none

end Mark

/-- What passed between an execution and the store. -/
def exchanges (h : List Mark) : List Exchange := h.filterMap Mark.exchange?

/-- How the work of an execution has ended. -/
def ends (h : List Mark) : List WorkEnd := h.filterMap Mark.end?

/-- The ways to finalize that an execution chose. -/
def choices (h : List Mark) : List Branch := h.filterMap Mark.choice?

/-- What was put into the channel. -/
def offers (h : List Mark) : List (Except Error Unit) := h.filterMap Mark.offer?

/-- The messages that were handed over. -/
def messages (h : List Mark) : List Notification := h.filterMap Mark.message?

/-- The outcomes that were taken from the channel. -/
def receipts (h : List Mark) : List (Except Error Unit) := h.filterMap Mark.receipt?

section Append

variable (h k : List Mark)

@[simp]
theorem exchanges_append : exchanges (h ++ k) = exchanges h ++ exchanges k :=
  List.filterMap_append

@[simp]
theorem ends_append : ends (h ++ k) = ends h ++ ends k := List.filterMap_append

@[simp]
theorem choices_append : choices (h ++ k) = choices h ++ choices k := List.filterMap_append

@[simp]
theorem offers_append : offers (h ++ k) = offers h ++ offers k := List.filterMap_append

@[simp]
theorem messages_append : messages (h ++ k) = messages h ++ messages k := List.filterMap_append

@[simp]
theorem receipts_append : receipts (h ++ k) = receipts h ++ receipts k := List.filterMap_append

end Append

theorem mem_exchanges {h : List Mark} {x : Exchange} : x ∈ exchanges h ↔ .exchanged x ∈ h := by
  rw [exchanges, List.mem_filterMap]
  constructor
  · rintro ⟨mark, mem, eq⟩
    cases mark <;> first | cases eq; exact mem | cases eq
  · intro mem
    exact ⟨_, mem, rfl⟩

theorem mem_ends {h : List Mark} {last : WorkEnd} : last ∈ ends h ↔ .worked last ∈ h := by
  rw [ends, List.mem_filterMap]
  constructor
  · rintro ⟨mark, mem, eq⟩
    cases mark <;> first | cases eq; exact mem | cases eq
  · intro mem
    exact ⟨_, mem, rfl⟩

theorem mem_offers {h : List Mark} {outcome : Except Error Unit} :
    outcome ∈ offers h ↔ .offered outcome ∈ h := by
  rw [offers, List.mem_filterMap]
  constructor
  · rintro ⟨mark, mem, eq⟩
    cases mark <;> first | cases eq; exact mem | cases eq
  · intro mem
    exact ⟨_, mem, rfl⟩

theorem exchanges_concat {h : List Mark} {mark : Mark} (other : mark.exchange? = none) :
    exchanges (h ++ [mark]) = exchanges h := by
  simp [exchanges, other]

@[simp]
theorem exchanges_map (passed : List Exchange) :
    exchanges (passed.map .exchanged) = passed := by
  induction passed with
  | nil => rfl
  | cons x rest ih => exact congrArg (x :: ·) ih

/-! ## Executions -/

namespace Execution

/-- What an observer notes of a step of an execution. -/
def marks (x : Execution) (m : Memory) : Event → List Mark
  | .prepare reply =>
    match x.stage with
    | .opening rest _ => (rest.exchange m reply).map .exchanged
    | _ => []
  | .enter =>
    match x.enter? with
    | some ⟨_, .running call _⟩ =>
      [.invoked call.assignment.key, .returned (.ok call.assignment.id)]
    | some ⟨_, .refused cause⟩ => [.returned (.error cause)]
    | _ => []
  | .cancel => [.cancelled]
  | .endWork last => [.worked last]
  | .choose =>
    match x.choose? with
    | some ⟨_, .running call (some (branch, _))⟩ => [.chose call.assignment branch]
    | _ => []
  | .finalize reply =>
    match x.stage with
    | .running _ (some (_, rest)) => (rest.exchange m reply).map .exchanged
    | _ => []
  | .finish now =>
    match x.stage with
    | .running _ (some (_, .done f)) =>
      .offered f.outcome :: ((x.message? now).map .announced).toList
    | _ => []
  | .receive => (x.receive?.map fun taken => .received taken.1).toList
  | .stopListening => [.dropped]

/-- The ways in which an execution of a request may go. -/
inductive Step (r : Request) (m : Memory) : Stage → List Mark → Stage → Memory → Prop
  | prepare {rest rest' : Procedure (Except Error (Job × Bool))} {c : Bool}
      {passed : List Exchange} {m' : Memory} :
    Procedure.Step m rest passed rest' m' →
    Step r m (.opening rest c) (passed.map .exchanged) (.opening rest' c) m'
  | enter {job : Job} {created c : Bool} :
    Step r m (.opening (.done (.ok (job, created))) c)
      [.invoked ⟨r.account, job.id⟩, .returned (.ok job.id)]
      (.running
        { Call.create ⟨r.account, job.id, job.description, created⟩ with cancelled := c } none)
      m
  | refuse {cause : Error} {c : Bool} :
    Step r m (.opening (.done (.error cause)) c) [.returned (.error cause)] (.refused cause) m
  | cancelOpening {rest : Procedure (Except Error (Job × Bool))} {c : Bool} :
    Step r m (.opening rest c) [.cancelled] (.opening rest true) m
  | cancelRefused {cause : Error} : Step r m (.refused cause) [.cancelled] (.refused cause) m
  | cancelRunning {call : Call} {finalizer? : Option (Branch × Procedure Finalized)} :
    Step r m (.running call finalizer?) [.cancelled] (.running call.cancel finalizer?) m
  | endWork {call : Call} {finalizer? : Option (Branch × Procedure Finalized)} {last : WorkEnd} :
    call.work = none →
    Step r m (.running call finalizer?) [.worked last] (.running (call.endWork last) finalizer?) m
  | choose {call : Call} {finalizer? : Option (Branch × Procedure Finalized)} {branch : Branch} :
    call.phase = .watching → branch? call.work call.cancelled = some branch →
    Step r m (.running call finalizer?) [.chose call.assignment branch]
      (.running { call with phase := .finalizing branch }
        (some (branch, finalize call.assignment branch)))
      m
  | finalize {call : Call} {branch : Branch} {rest rest' : Procedure Finalized}
      {passed : List Exchange} {m' : Memory} :
    Procedure.Step m rest passed rest' m' →
    Step r m (.running call (some (branch, rest))) (passed.map .exchanged)
      (.running call (some (branch, rest'))) m'
  | finish {call : Call} {branch chosen : Branch} {f : Finalized} {now : Instant} :
    call.phase = .finalizing chosen →
    Step r m (.running call (some (branch, .done f)))
      (.offered f.outcome :: ((announcement? call.assignment f now).map .announced).toList)
      (.running
        { call with
          phase := .ended f
          channel := if call.listening then .full f.outcome else .closed }
        (some (branch, .done f)))
      m
  | receive {call : Call} {finalizer? : Option (Branch × Procedure Finalized)} :
    call.listening = true →
    Step r m (.running call finalizer?) [.received call.receive.1]
      (.running call.receive.2 finalizer?) m
  | stopListening {call : Call} {finalizer? : Option (Branch × Procedure Finalized)} :
    Step r m (.running call finalizer?) [.dropped] (.running call.stopListening finalizer?) m

theorem eq_of_enter {x y : Execution} (happens : x.enter? = some y) :
    (∃ cause c, x.stage = .opening (.done (.error cause)) c ∧
      y = { x with stage := .refused cause }) ∨
    ∃ job created c, x.stage = .opening (.done (.ok (job, created))) c ∧
      y = { x with
        stage := .running
          { Call.create ⟨x.request.account, job.id, job.description, created⟩ with cancelled := c }
          none } := by
  unfold enter? at happens
  split at happens
  next cause c stage =>
    cases happens
    exact .inl ⟨cause, c, stage, rfl⟩
  next job created c stage =>
    cases happens
    refine .inr ⟨job, created, c, stage, ?_⟩
    cases c <;> rfl
  · cases happens

theorem eq_of_choose {x y : Execution} (happens : x.choose? = some y) :
    ∃ call finalizer? branch, x.stage = .running call finalizer? ∧ call.phase = .watching ∧
      branch? call.work call.cancelled = some branch ∧
      y = { x with
        stage := .running { call with phase := .finalizing branch }
          (some (branch, Manager.finalize call.assignment branch)) } := by
  unfold choose? at happens
  split at happens
  next call finalizer? stage =>
    rw [Option.map_eq_some_iff] at happens
    obtain ⟨⟨branch, next⟩, chosen, eq⟩ := happens
    unfold Call.choose? at chosen
    split at chosen
    next watching =>
      rw [Option.map_eq_some_iff] at chosen
      obtain ⟨b, way, same⟩ := chosen
      cases same
      exact ⟨call, finalizer?, branch, stage, watching, way, eq.symm⟩
    · cases chosen
  · cases happens

theorem eq_of_finish {x y : Execution} (happens : x.finish? = some y) :
    ∃ call branch f chosen, x.stage = .running call (some (branch, .done f)) ∧
      call.phase = .finalizing chosen ∧
      y = { x with
        stage := .running
          { call with
            phase := .ended f
            channel := if call.listening then .full f.outcome else .closed }
          (some (branch, .done f)) } := by
  unfold finish? at happens
  split at happens
  next call branch f stage =>
    rw [Option.map_eq_some_iff] at happens
    obtain ⟨next, sent, eq⟩ := happens
    unfold Call.finish? at sent
    split at sent
    next chosen finalizing =>
      cases sent
      exact ⟨call, branch, f, chosen, stage, finalizing, eq.symm⟩
    · cases sent
  · cases happens

/-- A step of an execution goes one of the ways, and is noted as it went. -/
theorem step_of_apply {x y : Execution} {m m' : Memory} {e : Event}
    (happens : x.apply m e = some (y, m')) :
    Step x.request m x.stage (x.marks m e) y.stage m' ∧ y.request = x.request := by
  cases e with
  | prepare reply =>
    change x.prepare? m reply = _ at happens
    unfold prepare? at happens
    split at happens
    next rest c stage =>
      rw [Option.map_eq_some_iff] at happens
      obtain ⟨⟨rest', m''⟩, advanced, eq⟩ := happens
      cases eq
      rw [marks, stage]
      exact ⟨.prepare (Procedure.step_of_advance advanced), rfl⟩
    · cases happens
  | enter =>
    simp only [apply, Option.map_eq_some_iff] at happens
    obtain ⟨z, entered, eq⟩ := happens
    cases eq
    rw [marks, entered]
    rcases eq_of_enter entered with ⟨cause, c, stage, rfl⟩ | ⟨job, created, c, stage, rfl⟩
    · rw [stage]
      exact ⟨.refuse, rfl⟩
    · rw [stage]
      exact ⟨.enter, rfl⟩
  | cancel =>
    cases happens
    rw [marks, cancel]
    cases stage : x.stage with
    | opening rest c => exact ⟨.cancelOpening, rfl⟩
    | refused cause =>
      refine ⟨?_, rfl⟩
      simp only [stage]
      exact .cancelRefused
    | running call finalizer? => exact ⟨.cancelRunning, rfl⟩
  | endWork last =>
    simp only [apply, Option.map_eq_some_iff] at happens
    obtain ⟨z, ended, eq⟩ := happens
    cases eq
    unfold endWork? at ended
    split at ended
    next call finalizer? stage =>
      split at ended
      next still =>
        cases ended
        rw [stage]
        exact ⟨.endWork still, rfl⟩
      · cases ended
    · cases ended
  | choose =>
    simp only [apply, Option.map_eq_some_iff] at happens
    obtain ⟨z, chosen, eq⟩ := happens
    cases eq
    rw [marks, chosen]
    obtain ⟨call, finalizer?, branch, stage, watching, way, rfl⟩ := eq_of_choose chosen
    rw [stage]
    exact ⟨.choose watching way, rfl⟩
  | finalize reply =>
    change x.finalize? m reply = _ at happens
    unfold finalize? at happens
    split at happens
    next call branch rest stage =>
      rw [Option.map_eq_some_iff] at happens
      obtain ⟨⟨rest', m''⟩, advanced, eq⟩ := happens
      cases eq
      rw [marks, stage]
      exact ⟨.finalize (Procedure.step_of_advance advanced), rfl⟩
    · cases happens
  | finish now =>
    simp only [apply, Option.map_eq_some_iff] at happens
    obtain ⟨z, finished, eq⟩ := happens
    cases eq
    obtain ⟨call, branch, f, chosen, stage, finalizing, rfl⟩ := eq_of_finish finished
    simp only [marks, message?, stage]
    exact ⟨.finish finalizing, trivial⟩
  | receive =>
    simp only [apply, Option.map_eq_some_iff] at happens
    obtain ⟨⟨what, z⟩, taken, eq⟩ := happens
    cases eq
    rw [marks, taken]
    unfold receive? at taken
    split at taken
    next call finalizer? stage =>
      split at taken
      next listening =>
        cases taken
        rw [stage]
        exact ⟨.receive listening, rfl⟩
      · cases taken
    · cases taken
  | stopListening =>
    simp only [apply, Option.map_eq_some_iff] at happens
    obtain ⟨z, dropped, eq⟩ := happens
    cases eq
    unfold stopListening? at dropped
    split at dropped
    next call finalizer? stage =>
      cases dropped
      rw [stage]
      exact ⟨.stopListening, rfl⟩
    · cases dropped

variable {r : Request} {m m' : Memory} {before after : Stage} {marks : List Mark}

/-- What a step of an execution does to the jobs in memory is what passes between it and the
store. -/
theorem Step.exchange (step : Step r m before marks after m') :
    exchanges marks = [] ∧ m' = m ∨
      ∃ (α : Type) (p p' : Procedure α), Procedure.Step m p (exchanges marks) p' m' := by
  cases step with
  | prepare moves =>
    rw [exchanges_map]
    exact .inr ⟨_, _, _, moves⟩
  | finalize moves =>
    rw [exchanges_map]
    exact .inr ⟨_, _, _, moves⟩
  | finish finalizing =>
    refine .inl ⟨?_, rfl⟩
    cases announcement? _ _ _ <;> rfl
  | enter => exact .inl ⟨rfl, rfl⟩
  | refuse => exact .inl ⟨rfl, rfl⟩
  | cancelOpening => exact .inl ⟨rfl, rfl⟩
  | cancelRefused => exact .inl ⟨rfl, rfl⟩
  | cancelRunning => exact .inl ⟨rfl, rfl⟩
  | endWork still => exact .inl ⟨rfl, rfl⟩
  | choose watching way => exact .inl ⟨rfl, rfl⟩
  | receive listening => exact .inl ⟨rfl, rfl⟩
  | stopListening => exact .inl ⟨rfl, rfl⟩

end Execution

end JobNode.Manager
