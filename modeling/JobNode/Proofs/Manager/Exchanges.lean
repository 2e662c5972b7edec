import JobNode.Proofs.Manager.EndToEnd

/-!
# Reading before saving

Whoever changes a record has read it before and saves what it makes of it; only a new job is saved
without having been read.  What happens to the store in between is nobody's concern here: this is
about each party alone, so each party is compared with what passed between it and the store.

* `Procedure.Obeys`: everything that passes between a procedure and the store follows a rule.
* `opens`, `settles`, `revises`: the rules of openings, of finalizers and of operations.
* `Traffic.inRule_of_run`: in every run every party follows its rule.
-/

namespace JobNode.Procedure

variable {α : Type} {m m' : Memory} {p p' : Procedure α}
variable {rule : List Exchange → Exchange → Prop} {past passed : List Exchange}

/-- Whatever the answers, all that passes between a procedure and the store follows a rule, in the
light of what passed before. -/
def Obeys (rule : List Exchange → Exchange → Prop) : Procedure α → List Exchange → Prop
  | done _, _ => True
  | get key next, past =>
    (∀ cause, (next (.error cause)).Obeys rule past) ∧
      ∀ job, job.key = key →
        rule past (.found job) ∧ (next (.ok job)).Obeys rule (past ++ [.found job])
  | save job next, past =>
    rule past (.saved job) ∧
      (∀ cause, (next (.error cause)).Obeys rule past) ∧
        (next (.ok ())).Obeys rule (past ++ [.saved job])
  | now next, past => ∀ t, (next t).Obeys rule past
  | newId next, past => ∀ id, (next id).Obeys rule past

theorem Obeys.step (obeys : p.Obeys rule past) (step : Step m p passed p' m') :
    p'.Obeys rule (past ++ passed) := by
  cases step with
  | found at_ => exact (obeys.2 _ (Memory.key_of_get? at_)).2
  | unread cause => simpa using obeys.1 cause
  | saved => exact obeys.2.2
  | unsaved cause => simpa using obeys.2.1 cause
  | time t => simpa using obeys t
  | identifier id => simpa using obeys id

/-- One answer lets one exchange pass at most, and that one follows the rule. -/
theorem Obeys.passed_cases (obeys : p.Obeys rule past) (step : Step m p passed p' m') :
    passed = [] ∨ ∃ x, passed = [x] ∧ rule past x := by
  cases step with
  | found at_ => exact .inr ⟨_, rfl, (obeys.2 _ (Memory.key_of_get? at_)).1⟩
  | saved => exact .inr ⟨_, rfl, obeys.1⟩
  | unread cause | unsaved cause | time t | identifier id => exact .inl rfl

end JobNode.Procedure

namespace JobNode.Manager

open Procedure (Exchange saves)

/-! ## Rules -/

/-- To open the job of a request, the existing one is found or a new one is saved first of all. -/
def opens (r : Request) (past : List Exchange) : Exchange → Prop
  | .found job => r.existing = some job.id ∧ job.account = r.account
  | .saved job => past = [] ∧ ∃ t, job = Job.create job.id r.account r.description t

/-- To finalize a job, it is read, and what it settles to is saved. -/
def settles (a : Assignment) (branch : Branch) (past : List Exchange) : Exchange → Prop
  | .found job => job.key = a.key
  | .saved job =>
    ∃ old t, past.getLast? = some (.found old) ∧ old.key = a.key ∧ job = branch.settled a t old

/-- What an operation may make of a record. -/
inductive Updated (old : Job) : Job → Prop
  | task (status : Status) (task message : String) (t : Instant) :
    Updated old ((old.setTaskStatus task status).addLog task message t)
  | value (name : String) (bytes : List UInt8) : Updated old (old.setValue name bytes)

/-- An operation saves what it makes of the record that it has read. -/
def revises (past : List Exchange) : Exchange → Prop
  | .found _ => True
  | .saved job => ∃ old, past.getLast? = some (.found old) ∧ Updated old job

theorem createJob_obeys (r : Request) :
    (createJob r.account r.description).Obeys (opens r) [] := by
  intro id t
  exact ⟨⟨rfl, t, rfl⟩, fun cause => trivial, trivial⟩

theorem openJob_obeys (r : Request) :
    (openJob r.account r.existing r.description).Obeys (opens r) [] := by
  unfold openJob
  cases existing : r.existing with
  | none => exact createJob_obeys r
  | some id =>
    refine ⟨fun cause => ?_, fun job own => ?_⟩
    · simp only
      split
      · exact createJob_obeys r
      · trivial
    · obtain ⟨account, same⟩ := JobKey.mk.inj own
      refine ⟨⟨?_, account⟩, trivial⟩
      rw [existing, same]

theorem finalize_obeys (a : Assignment) (branch : Branch) (past : List Exchange) :
    (finalize a branch).Obeys (settles a branch) past := by
  have last (job : Job) : (past ++ [Exchange.found job]).getLast? = some (.found job) := by simp
  cases branch with
  | completion end_ =>
    refine ⟨fun cause => trivial, fun job own => ⟨own, fun t => ⟨?_, fun cause => trivial, trivial⟩⟩⟩
    exact ⟨job, t, last job, own, completed_eq_settled a end_ t job⟩
  | cancellation =>
    refine ⟨fun cause => trivial, fun job own => ⟨own, fun t => ⟨?_, fun cause => trivial, trivial⟩⟩⟩
    exact ⟨job, t, last job, own, addLog_eq_settled a t job⟩

theorem operation_obeys (o : Operation) (past : List Exchange) :
    o.procedure.Obeys revises past := by
  have last (job : Job) : (past ++ [Exchange.found job]).getLast? = some (.found job) := by simp
  cases o with
  | updateTask key status task message =>
    refine ⟨fun cause => trivial, fun job own =>
      ⟨trivial, fun t => ⟨⟨job, last job, ?_⟩, fun cause => trivial, trivial⟩⟩⟩
    exact .task status task message t
  | updateValue key name bytes =>
    refine ⟨fun cause => trivial, fun job own =>
      ⟨trivial, fun t => ⟨⟨job, last job, ?_⟩, fun cause => trivial, trivial⟩⟩⟩
    exact .value name bytes
  | read key => exact ⟨fun cause => trivial, fun job own => ⟨trivial, trivial⟩⟩

/-! ## Executions -/

/-- What is left of an execution follows its rule. -/
def Stage.Obeys (r : Request) (h : List Mark) : Stage → Prop
  | .opening rest _ => rest.Obeys (opens r) (exchanges h)
  | .running call (some (branch, rest)) =>
    .chose call.assignment branch ∈ h ∧
      rest.Obeys (settles call.assignment branch) (exchanges h)
  | _ => True

/-- What passes between an execution and the store opens its job, or finalizes it as was chosen. -/
def Ruled (r : Request) (past : List Mark) : Mark → Prop
  | .exchanged x =>
    (∀ mark ∈ past, mark.isEarly) ∧ opens r (exchanges past) x ∨
      ∃ a branch, .chose a branch ∈ past ∧ settles a branch (exchanges past) x
  | _ => True

variable {r : Request} {m m' : Memory} {h marks : List Mark} {before after : Stage}

theorem Stage.Obeys.append {stage : Stage} (obeys : stage.Obeys r h)
    (silent : exchanges marks = []) : stage.Obeys r (h ++ marks) := by
  unfold Stage.Obeys at obeys ⊢
  rw [exchanges_append, silent, List.append_nil]
  split at obeys
  · exact obeys
  · exact ⟨List.mem_append_left _ obeys.1, obeys.2⟩
  · trivial

theorem Stage.Obeys.congr {call next : Call} {finalizer? : Option (Branch × Procedure Finalized)}
    (obeys : (Stage.running call finalizer?).Obeys r h) (same : next.assignment = call.assignment) :
    (Stage.running next finalizer?).Obeys r h := by
  cases finalizer? with
  | none => trivial
  | some begun =>
    simp only [Stage.Obeys, same] at obeys ⊢
    exact obeys

/-- Every step leaves an execution with its rule. -/
theorem obeys_of_step (obeys : before.Obeys r h)
    (step : Execution.Step r m before marks after m') : after.Obeys r (h ++ marks) := by
  cases step with
  | prepare moves =>
    have rest : Procedure.Obeys (opens r) _ (exchanges h) := obeys
    change Procedure.Obeys (opens r) _ _
    rw [exchanges_append, exchanges_map]
    exact rest.step moves
  | enter => trivial
  | refuse => trivial
  | @cancelOpening rest c =>
    have same : (Stage.opening rest true).Obeys r h := obeys
    exact same.append rfl
  | cancelRefused => trivial
  | cancelRunning => exact (obeys.append rfl).congr rfl
  | endWork still => exact (obeys.append rfl).congr rfl
  | choose watching way => exact ⟨by simp, finalize_obeys _ _ _⟩
  | finalize moves =>
    obtain ⟨chose, rest⟩ := obeys
    refine ⟨List.mem_append_left _ chose, ?_⟩
    rw [exchanges_append, exchanges_map]
    exact rest.step moves
  | finish finalizing =>
    have silent (message? : Option Notification) (outcome : Except Error Unit) :
        exchanges (.offered outcome :: (message?.map .announced).toList) = [] := by
      cases message? <;> rfl
    exact (obeys.append (silent _ _)).congr rfl
  | receive listening => exact (obeys.append rfl).congr rfl
  | stopListening => exact (obeys.append rfl).congr rfl

/-- What passes between an execution and the store with one step follows its rule. -/
theorem ruled_of_step (accords : before.Accords r h) (obeys : before.Obeys r h)
    (ruled : Run.Always (Ruled r) h) (step : Execution.Step r m before marks after m') :
    Run.Always (Ruled r) (h ++ marks) := by
  have silent {mark : Mark} (other : mark.exchange? = none) (ruled : Run.Always (Ruled r) h) :
      Run.Always (Ruled r) (h ++ [mark]) := by
    refine ruled.concat ?_
    cases mark <;> trivial
  cases step with
  | prepare moves =>
    obtain ⟨early, -, -⟩ := accords
    have rest : Procedure.Obeys (opens r) _ (exchanges h) := obeys
    rcases rest.passed_cases moves with rfl | ⟨x, rfl, follows⟩
    · simpa using ruled
    · refine ruled.concat (d := .exchanged x) ?_
      exact Or.inl ⟨early, follows⟩
  | finalize moves =>
    obtain ⟨chose, rest⟩ := obeys
    rcases rest.passed_cases moves with rfl | ⟨x, rfl, follows⟩
    · simpa using ruled
    · refine ruled.concat (d := .exchanged x) ?_
      exact Or.inr ⟨_, _, chose, follows⟩
  | enter =>
    rw [List.append_cons]
    refine (silent rfl ruled).concat ?_
    trivial
  | @finish call branch chosen f now finalizing =>
    rw [List.append_cons]
    have sent : Run.Always (Ruled r) (h ++ [.offered f.outcome]) := silent rfl ruled
    cases announcement? call.assignment f now with
    | none => simpa using sent
    | some message =>
      refine sent.concat (d := .announced message) ?_
      trivial
  | refuse | cancelOpening | cancelRefused | cancelRunning => exact silent rfl ruled
  | endWork still => exact silent rfl ruled
  | choose watching way => exact silent rfl ruled
  | receive listening => exact silent rfl ruled
  | stopListening => exact silent rfl ruled

namespace Traffic

/-! ## Parties -/

/-- Who exchanges jobs with the store. -/
inductive Party where
  | execution (i : Nat)
  | operation (j : Nat)
  deriving DecidableEq

/-- How an exchange of the party is noted. -/
def Party.mark : Party → Exchange → Mark
  | execution i, x => .execution i (.exchanged x)
  | operation j, x => .operation j x

/-- The exchange that was noted, if it is one of the party. -/
def Mark.by? (p : Party) : Mark → Option Exchange
  | execution i mark => if p = .execution i then mark.exchange? else none
  | operation j x => if p = .operation j then some x else none

/-- What passed between a party and the store. -/
def passedBy (p : Party) (h : List Mark) : List Exchange := h.filterMap (Mark.by? p)

variable {h k : List Mark} {p : Party} {i j : Nat}

@[simp]
theorem passedBy_append : passedBy p (h ++ k) = passedBy p h ++ passedBy p k :=
  List.filterMap_append

theorem passedBy_execution (h : List Mark) : passedBy (.execution i) h = exchanges (of i h) := by
  rw [passedBy, exchanges, of, List.filterMap_filterMap]
  congr 1
  funext mark
  cases mark with
  | execution j mark =>
    by_cases own : j = i
    · simp [Mark.by?, Mark.of?, own]
    · have ne : ¬ i = j := fun eq => own eq.symm
      simp [Mark.by?, Mark.of?, own, ne]
  | operation j x => simp [Mark.by?, Mark.of?]

theorem passedBy_operation_self (through : List Exchange) :
    passedBy (.operation j) (through.map (.operation j)) = through := by
  simp [passedBy, Mark.by?, List.filterMap_map, Function.comp_def]

theorem passedBy_operation_of_ne (ne : j ≠ i) (through : List Exchange) :
    passedBy (.operation j) (through.map (.operation i)) = [] := by
  simp [passedBy, Mark.by?, ne]

theorem passedBy_operation_execution (marks : List Manager.Mark) :
    passedBy (.operation j) (marks.map (.execution i)) = [] := by
  simp [passedBy, Mark.by?]

/-! ## Runs -/

/-- Every party has followed its rule, and what is left of it does. -/
structure InRule (s : Traffic) (h : List Mark) : Prop where
  executions : AllKeep (fun x h => x.stage.Accords x.request h ∧ x.stage.Obeys x.request h ∧
    Run.Always (Ruled x.request) h) s h
  operations : ∀ (j : Nat) (rest : Procedure (Except Error (Option Job))),
    s.operations[j]? = some rest → rest.Obeys revises (passedBy (.operation j) h)
  idle : ∀ j, s.operations.length ≤ j → passedBy (.operation j) h = []
  revised : ∀ j, Run.Always revises (passedBy (.operation j) h)

variable {s next : Traffic} {marks : List Mark}

/-- What an operation follows, it still follows when others have gone on. -/
theorem InRule.operations_of_silent (before : InRule s h) (marks : List Mark)
    (silent : ∀ j, passedBy (.operation j) marks = []) :
    (∀ (j : Nat) (rest : Procedure (Except Error (Option Job))), s.operations[j]? = some rest →
      rest.Obeys revises (passedBy (.operation j) (h ++ marks))) ∧
    (∀ j, s.operations.length ≤ j → passedBy (.operation j) (h ++ marks) = []) ∧
    ∀ j, Run.Always revises (passedBy (.operation j) (h ++ marks)) := by
  have same (j : Nat) : passedBy (.operation j) (h ++ marks) = passedBy (.operation j) h := by
    rw [passedBy_append, silent, List.append_nil]
  refine ⟨fun j rest at_ => ?_, fun j out => ?_, fun j => ?_⟩
  · rw [same]
    exact before.operations j rest at_
  · rw [same]
    exact before.idle j out
  · rw [same]
    exact before.revised j

theorem InRule.step (before : InRule s h) (step : Step s marks next) : InRule next (h ++ marks) := by
  have executions := before.executions.step
    (fun r => ⟨accords_create r, openJob_obeys r, Run.always_nil⟩)
    (fun {x y m m' past marks} ⟨accords, obeys, ruled⟩ step same => by
      rw [same]
      exact ⟨accords_of_step accords step, obeys_of_step obeys step,
        ruled_of_step accords obeys ruled step⟩) step
  cases step with
  | request r =>
    obtain ⟨operations, idle, revised⟩ := before.operations_of_silent [] fun _ => rfl
    exact ⟨executions, operations, idle, revised⟩
  | execution at_ moves same handed =>
    obtain ⟨operations, idle, revised⟩ :=
      before.operations_of_silent _ fun j => passedBy_operation_execution _
    exact ⟨executions, operations, idle, revised⟩
  | deliver handed =>
    obtain ⟨operations, idle, revised⟩ := before.operations_of_silent [] fun _ => rfl
    exact ⟨executions, operations, idle, revised⟩
  | operate o =>
    obtain ⟨operations, idle, revised⟩ := before.operations_of_silent [] fun _ => rfl
    refine ⟨executions, fun j rest at_ => ?_, fun j out => ?_, revised⟩
    · rcases of_getElem?_concat at_ with old | ⟨-, rfl⟩
      · exact operations j rest old
      · exact operation_obeys o _
    · rw [List.length_append] at out
      exact idle j (by omega)
  | @operation j rest rest' through memory at_ moves =>
    have inRange := (List.getElem?_eq_some_iff.1 at_).1
    have obeys := before.operations j rest at_
    -- the operation that goes on is compared with its own exchanges, the others are silent
    refine ⟨executions, fun i other found => ?_, fun i out => ?_, fun i => ?_⟩
    · by_cases own : i = j
      · subst own
        simp only [List.getElem?_set_self inRange, Option.some.injEq] at found
        subst found
        rw [passedBy_append, passedBy_operation_self]
        exact obeys.step moves
      · simp only [List.getElem?_set_ne (Ne.symm own)] at found
        rw [passedBy_append, passedBy_operation_of_ne own, List.append_nil]
        exact before.operations i other found
    · rw [List.length_set] at out
      rw [passedBy_append, before.idle i out, passedBy_operation_of_ne (by omega)]
      rfl
    · by_cases own : i = j
      · subst own
        rw [passedBy_append, passedBy_operation_self]
        rcases obeys.passed_cases moves with rfl | ⟨x, rfl, follows⟩
        · simpa using before.revised i
        · exact (before.revised i).concat follows
      · rw [passedBy_append, passedBy_operation_of_ne own, List.append_nil]
        exact before.revised i

theorem inRule_of_run {m : Memory} {n : Nat} {events : List Event}
    (run : (create m n).run? events = some s) : InRule s ((create m n).history events) := by
  refine Run.history_induction (fun before happens => before.step (step_of_apply happens)) ?_ run
  exact
    { executions := ⟨fun _ _ at_ => (nomatch at_), fun _ _ => rfl⟩
      operations := fun _ _ at_ => (nomatch at_)
      idle := fun _ _ => rfl
      revised := fun _ => Run.always_nil }

/-- Whatever was noted of an execution follows the rule of its request. -/
theorem InRule.ruled (inRule : InRule s h) {past later : List Mark} {mark : Manager.Mark}
    (split : h = past ++ .execution i mark :: later) : ∃ r, Ruled r (of i past) mark := by
  have own := of_split split
  cases at_ : s.executions[i]? with
  | some x =>
    obtain ⟨-, -, ruled⟩ := inRule.executions.1 i x at_
    exact ⟨x.request, ruled _ _ _ own⟩
  | none =>
    rw [inRule.executions.2 i (List.getElem?_eq_none_iff.1 at_)] at own
    simp at own

/-- Whatever passed between an operation and the store follows the rule of operations. -/
theorem InRule.revises_of (inRule : InRule s h) {past later : List Mark} {x : Exchange}
    (split : h = past ++ .operation j x :: later) : revises (passedBy (.operation j) past) x := by
  have own : passedBy (.operation j) h =
      passedBy (.operation j) past ++ x :: passedBy (.operation j) later := by
    rw [split, passedBy_append, passedBy, passedBy, passedBy, List.filterMap_cons_some]
    exact if_pos rfl
  exact inRule.revised j _ _ _ own

end Traffic

end JobNode.Manager
