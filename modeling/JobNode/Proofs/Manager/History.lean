import JobNode.Manager.Traffic
import JobNode.Proofs.Manager.Marks
import JobNode.Proofs.Run

/-!
# What happens under a manager

The history of a manager holds the marks of every execution, and what passed between its operations
and the store.

* `Traffic.Moves`, `Traffic.moves_of_apply`: what becomes of the traffic with each step.
* `Traffic.Step`, `Traffic.step_of_apply`: the ways in which the traffic may go on, with their marks.
* `Traffic.AllKeep.step`: what every step of an execution keeps is kept for all executions.
* `Traffic.stored_of_run`: the jobs in memory are the first ones with all that was saved since.
-/

namespace JobNode.Manager.Traffic

open Procedure (Exchange)

/-- What an observer of a manager notes. -/
inductive Mark where
  | execution (i : Nat) (mark : Manager.Mark)
  /-- A job passed between an operation and the store. -/
  | operation (j : Nat) (x : Exchange)

/-- What an observer of a manager notes of a step. -/
def marks (s : Traffic) : Event → List Mark
  | .execution i e =>
    match s.executions[i]? with
    | some x => (x.marks s.memory e).map (.execution i)
    | none => []
  | .operation j reply =>
    match s.operations[j]? with
    | some rest => (rest.exchange s.memory reply).map (.operation j)
    | none => []
  | _ => []

/-- The traffic after steps; none if one of them cannot happen. -/
def run? (s : Traffic) (events : List Event) : Option Traffic := Run.last? apply s events

/-- What is noted of the steps. -/
def history (s : Traffic) (events : List Event) : List Mark := Run.history apply marks s events

namespace Mark

/-- What is noted of an execution. -/
def of? (i : Nat) : Mark → Option Manager.Mark
  | execution j mark => if j = i then some mark else none
  | operation _ _ => none

/-- The exchange that was noted, whosever it was. -/
def exchange? : Mark → Option Exchange
  | execution _ mark => mark.exchange?
  | operation _ x => some x

/-- The message that was noted when it was handed over. -/
def message? : Mark → Option Notification
  | execution _ mark => mark.message?
  | operation _ _ => none

end Mark

/-- What happened to an execution. -/
def of (i : Nat) (h : List Mark) : List Manager.Mark := h.filterMap (Mark.of? i)

/-- All that passed between the parties and the store, in order. -/
def allExchanges (h : List Mark) : List Exchange := h.filterMap Mark.exchange?

/-- All messages that were handed over, in order. -/
def allMessages (h : List Mark) : List Notification := h.filterMap Mark.message?

variable {h k : List Mark} {i j : Nat}

@[simp]
theorem of_append : of i (h ++ k) = of i h ++ of i k := List.filterMap_append

@[simp]
theorem allExchanges_append : allExchanges (h ++ k) = allExchanges h ++ allExchanges k :=
  List.filterMap_append

@[simp]
theorem allMessages_append : allMessages (h ++ k) = allMessages h ++ allMessages k :=
  List.filterMap_append

theorem of_split {past later : List Mark} {mark : Manager.Mark}
    (split : h = past ++ .execution i mark :: later) : of i h = of i past ++ mark :: of i later := by
  rw [split, of_append, of, of, of, List.filterMap_cons_some]
  exact if_pos rfl

theorem mem_of {mark : Manager.Mark} : mark ∈ of i h ↔ .execution i mark ∈ h := by
  rw [of, List.mem_filterMap]
  constructor
  · rintro ⟨noted, mem, eq⟩
    cases noted with
    | execution j mark' =>
      rw [Mark.of?] at eq
      split at eq
      next same =>
        subst same
        cases eq
        exact mem
      · cases eq
    | operation j x => cases eq
  · intro mem
    exact ⟨_, mem, if_pos rfl⟩

theorem of_execution_self (marks : List Manager.Mark) :
    of i (marks.map (.execution i)) = marks := by
  induction marks with
  | nil => rfl
  | cons mark rest ih => simpa [of, Mark.of?] using ih

theorem of_execution_of_ne (ne : j ≠ i) (marks : List Manager.Mark) :
    of i (marks.map (.execution j)) = [] := by
  simp [of, Mark.of?, ne]

theorem of_operation (passed : List Exchange) : of i (passed.map (.operation j)) = [] := by
  simp [of, Mark.of?]

theorem allExchanges_execution (marks : List Manager.Mark) :
    allExchanges (marks.map (.execution i)) = exchanges marks := by
  simp [allExchanges, exchanges, Mark.exchange?, List.filterMap_map, Function.comp_def]

theorem allExchanges_operation (passed : List Exchange) :
    allExchanges (passed.map (.operation j)) = passed := by
  simp [allExchanges, Mark.exchange?, List.filterMap_map, Function.comp_def]

theorem allMessages_execution (marks : List Manager.Mark) :
    allMessages (marks.map (.execution i)) = messages marks := by
  simp [allMessages, messages, Mark.message?, List.filterMap_map, Function.comp_def]

theorem allMessages_operation (passed : List Exchange) :
    allMessages (passed.map (.operation j)) = [] := by
  simp [allMessages, Mark.message?]

/-- The messages that are under way or finished. -/
def dispatched (d : Deliveries) : List Notification := d.messages.map (·.1)

theorem dispatched_setState {d : Deliveries} {n : Nat} {message : Notification}
    {old : DeliveryState} (at_ : d.messages[n]? = some (message, old)) (state : DeliveryState) :
    dispatched (d.setState n message state) = dispatched d := by
  rw [dispatched, dispatched, Deliveries.setState, List.map_set]
  refine List.ext_getElem? fun i => ?_
  by_cases own : n = i
  · subst own
    obtain ⟨inRange, -⟩ := List.getElem?_eq_some_iff.1 at_
    rw [List.getElem?_set_self (by simpa using inRange), List.getElem?_map, at_]
    rfl
  · rw [List.getElem?_set_ne own]

theorem dispatched_begin {d d' : Deliveries} {n : Nat} (happens : d.begin? n = some d') :
    dispatched d' = dispatched d := by
  unfold Deliveries.begin? at happens
  split at happens
  next message at_ =>
    split at happens
    · cases happens
      exact dispatched_setState at_ _
    · cases happens
  · cases happens

theorem dispatched_finish {d d' : Deliveries} {n : Nat} {result : Delivery}
    (happens : d.finish? n result = some d') : dispatched d' = dispatched d := by
  unfold Deliveries.finish? at happens
  split at happens
  next message at_ =>
    cases happens
    exact dispatched_setState at_ _
  · cases happens

theorem dispatched_announce (d : Deliveries) {x y : Execution} {m m' : Memory} {e : Execution.Event}
    (happens : x.apply m e = some (y, m')) :
    dispatched (announce d x e) = dispatched d ++ messages (x.marks m e) := by
  have unmarked {passed : List Exchange} : messages (passed.map .exchanged) = [] := by
    simp [messages, Manager.Mark.message?]
  cases e with
  | finish now =>
    simp only [Execution.apply, Option.map_eq_some_iff] at happens
    obtain ⟨z, finished, -⟩ := happens
    obtain ⟨call, branch, f, chosen, stage, -, -⟩ := Execution.eq_of_finish finished
    simp only [announce, Execution.message?, Execution.marks, stage]
    cases announcement? call.assignment f now with
    | none => exact (List.append_nil _).symm
    | some message =>
      simp only [dispatched, Deliveries.dispatch, List.map_append]
      rfl
  | prepare reply =>
    rw [Execution.marks]
    split
    · rw [unmarked]
      exact (List.append_nil _).symm
    · exact (List.append_nil _).symm
  | finalize reply =>
    rw [Execution.marks]
    split
    · rw [unmarked]
      exact (List.append_nil _).symm
    · exact (List.append_nil _).symm
  | enter =>
    rw [Execution.marks]
    split <;> exact (List.append_nil _).symm
  | choose =>
    rw [Execution.marks]
    split <;> exact (List.append_nil _).symm
  | receive =>
    rw [Execution.marks]
    cases x.receive? <;> exact (List.append_nil _).symm
  | cancel => exact (List.append_nil _).symm
  | endWork last => exact (List.append_nil _).symm
  | stopListening => exact (List.append_nil _).symm

/-- What becomes of the traffic of a manager with a step. -/
inductive Moves (s : Traffic) : Event → Traffic → Prop
  | request (r : Request) : Moves s (.request r) { s with executions := s.executions ++ [.create r] }
  | execution {i : Nat} {x y : Execution} {e : Execution.Event} {memory : Memory} :
    s.executions[i]? = some x → x.apply s.memory e = some (y, memory) →
    Moves s (.execution i e)
      { s with
        memory
        executions := s.executions.set i y
        deliveries := announce s.deliveries x e }
  | operate (o : Operation) :
    Moves s (.operate o) { s with operations := s.operations ++ [o.procedure] }
  | operation {j : Nat} {rest rest' : Procedure (Except Error (Option Job))}
      {reply : Procedure.Reply} {memory : Memory} :
    s.operations[j]? = some rest → rest.advance? s.memory reply = some (rest', memory) →
    Moves s (.operation j reply) { s with memory, operations := s.operations.set j rest' }
  | send {k : Nat} {deliveries : Deliveries} :
    s.deliveries.begin? k = some deliveries → Moves s (.send k) { s with deliveries }
  | deliver {k : Nat} {result : Delivery} {deliveries : Deliveries} :
    s.deliveries.finish? k result = some deliveries →
    Moves s (.deliver k result) { s with deliveries }

theorem moves_of_apply {s next : Traffic} {e : Event} (happens : s.apply e = some next) :
    Moves s e next := by
  cases e with
  | request r =>
    cases happens
    exact .request r
  | execution i e =>
    rw [apply] at happens
    split at happens
    next x at_ =>
      simp only [Option.map_eq_some_iff] at happens
      obtain ⟨⟨y, memory⟩, moved, eq⟩ := happens
      cases eq
      exact .execution at_ moved
    · cases happens
  | operate o =>
    cases happens
    exact .operate o
  | operation j reply =>
    rw [apply] at happens
    split at happens
    next rest at_ =>
      simp only [Option.map_eq_some_iff] at happens
      obtain ⟨⟨rest', memory⟩, advanced, eq⟩ := happens
      cases eq
      exact .operation at_ advanced
    · cases happens
  | send k =>
    simp only [apply, Option.map_eq_some_iff] at happens
    obtain ⟨deliveries, began, eq⟩ := happens
    cases eq
    exact .send began
  | deliver k result =>
    simp only [apply, Option.map_eq_some_iff] at happens
    obtain ⟨deliveries, finished, eq⟩ := happens
    cases eq
    exact .deliver finished

/-- The ways in which the traffic of a manager may go on, with the marks of each. -/
inductive Step (s : Traffic) : List Mark → Traffic → Prop
  | request (r : Request) : Step s [] { s with executions := s.executions ++ [.create r] }
  | execution {i : Nat} {x y : Execution} {marks : List Manager.Mark} {memory : Memory}
      {deliveries : Deliveries} :
    s.executions[i]? = some x →
    Execution.Step x.request s.memory x.stage marks y.stage memory → y.request = x.request →
    dispatched deliveries = dispatched s.deliveries ++ messages marks →
    Step s (marks.map (.execution i))
      { s with memory, executions := s.executions.set i y, deliveries }
  | operate (o : Operation) : Step s [] { s with operations := s.operations ++ [o.procedure] }
  | operation {j : Nat} {rest rest' : Procedure (Except Error (Option Job))}
      {passed : List Exchange} {memory : Memory} :
    s.operations[j]? = some rest → Procedure.Step s.memory rest passed rest' memory →
    Step s (passed.map (.operation j)) { s with memory, operations := s.operations.set j rest' }
  | deliver {deliveries : Deliveries} :
    dispatched deliveries = dispatched s.deliveries → Step s [] { s with deliveries }

/-- A step goes one of the ways, and is noted as it went. -/
theorem step_of_apply {s next : Traffic} {e : Event} (happens : s.apply e = some next) :
    Step s (s.marks e) next := by
  cases moves_of_apply happens with
  | request r => exact .request r
  | execution at_ moved =>
    obtain ⟨step, same⟩ := Execution.step_of_apply moved
    rw [marks, at_]
    exact .execution at_ step same (dispatched_announce _ moved)
  | operate o => exact .operate o
  | operation at_ advanced =>
    rw [marks, at_]
    exact .operation at_ (Procedure.step_of_advance advanced)
  | send began => exact .deliver (dispatched_begin began)
  | deliver finished => exact .deliver (dispatched_finish finished)

/-! ## Runs -/

variable {kept : Execution → List Manager.Mark → Prop}

/-- Each execution and what happened to it are in a relation; nothing has happened to the executions
to come. -/
def AllKeep (kept : Execution → List Manager.Mark → Prop) (s : Traffic) (h : List Mark) : Prop :=
  (∀ i x, s.executions[i]? = some x → kept x (of i h)) ∧
    ∀ i, s.executions.length ≤ i → of i h = []

theorem of_getElem?_concat {α : Type} {l : List α} {last x : α} {i : Nat}
    (at_ : (l ++ [last])[i]? = some x) : l[i]? = some x ∨ i = l.length ∧ x = last := by
  rcases Nat.lt_trichotomy i l.length with inside | eq | outside
  · rw [List.getElem?_append_left inside] at at_
    exact .inl at_
  · subst eq
    rw [List.getElem?_concat_length] at at_
    exact .inr ⟨rfl, (Option.some.inj at_).symm⟩
  · rw [List.getElem?_eq_none (by simp; omega)] at at_
    cases at_

theorem AllKeep.step {s next : Traffic} {h marks : List Mark} (all : AllKeep kept s h)
    (start : ∀ r, kept (.create r) [])
    (step : ∀ {x y : Execution} {m m' : Memory} {past marks : List Manager.Mark}, kept x past →
      Execution.Step x.request m x.stage marks y.stage m' → y.request = x.request →
      kept y (past ++ marks))
    (goes : Step s marks next) : AllKeep kept next (h ++ marks) := by
  cases goes with
  | request r =>
    refine ⟨fun i x at_ => ?_, fun i out => ?_⟩
    · rw [List.append_nil]
      rcases of_getElem?_concat at_ with old | ⟨rfl, rfl⟩
      · exact all.1 i x old
      · rw [all.2 _ (Nat.le_refl _)]
        exact start r
    · rw [List.append_nil]
      rw [List.length_append] at out
      exact all.2 i (by omega)
  | @execution i x y marks memory deliveries at_ moves same handed =>
    refine ⟨fun j z found => ?_, fun j out => ?_⟩
    · -- what happens to one execution is no part of what happens to another
      rw [of_append]
      by_cases own : i = j
      · subst own
        rw [of_execution_self]
        have inRange := (List.getElem?_eq_some_iff.1 at_).1
        simp only [List.getElem?_set_self inRange, Option.some.injEq] at found
        subst found
        exact step (all.1 i x at_) moves same
      · rw [of_execution_of_ne own, List.append_nil]
        simp only [List.getElem?_set_ne own] at found
        exact all.1 j z found
    · rw [List.length_set] at out
      have inRange := (List.getElem?_eq_some_iff.1 at_).1
      rw [of_append, all.2 j out, of_execution_of_ne (by omega)]
      rfl
  | operate o =>
    rw [List.append_nil]
    exact all
  | operation at_ advanced =>
    refine ⟨fun i x found => ?_, fun i out => ?_⟩
    · rw [of_append, of_operation, List.append_nil]
      exact all.1 i x found
    · rw [of_append, of_operation, List.append_nil]
      exact all.2 i out
  | deliver handed =>
    rw [List.append_nil]
    exact all

/-- What a step does to the jobs in memory is what passes between a party and the store. -/
theorem Step.exchange {s next : Traffic} {marks : List Mark} (step : Step s marks next) :
    allExchanges marks = [] ∧ next.memory = s.memory ∨
      ∃ (α : Type) (p p' : Procedure α),
        Procedure.Step s.memory p (allExchanges marks) p' next.memory := by
  cases step with
  | request r => exact .inl ⟨rfl, rfl⟩
  | execution at_ moves same handed =>
    rw [allExchanges_execution]
    exact moves.exchange
  | operate o => exact .inl ⟨rfl, rfl⟩
  | operation at_ advanced =>
    rw [allExchanges_operation]
    exact .inr ⟨_, _, _, advanced⟩
  | deliver handed => exact .inl ⟨rfl, rfl⟩

/-- What a step hands over for delivery is noted. -/
theorem Step.handed {s next : Traffic} {marks : List Mark} (step : Step s marks next) :
    dispatched next.deliveries = dispatched s.deliveries ++ allMessages marks := by
  cases step with
  | request r => exact (List.append_nil _).symm
  | execution at_ moves same handed =>
    rw [allMessages_execution]
    exact handed
  | operate o => exact (List.append_nil _).symm
  | operation at_ advanced =>
    rw [allMessages_operation]
    exact (List.append_nil _).symm
  | deliver handed => exact handed.trans (List.append_nil _).symm

/-- The jobs in memory are the first ones with all that was saved since, what was read or saved is
still there, and the messages are those that were handed over. -/
structure Stored (m : Memory) (s : Traffic) (h : List Mark) : Prop where
  messages : dispatched s.deliveries = allMessages h
  memory : s.memory = Procedure.keep m (Procedure.saves (allExchanges h))
  there : ∀ x ∈ allExchanges h, (s.memory.get? x.job.key).isSome

theorem Stored.step {m : Memory} {s next : Traffic} {h marks : List Mark} (before : Stored m s h)
    (step : Step s marks next) : Stored m next (h ++ marks) := by
  have messages : dispatched next.deliveries = allMessages (h ++ marks) := by
    rw [step.handed, before.messages, allMessages_append]
  rcases step.exchange with ⟨nothing, same⟩ | ⟨α, p, p', moves⟩
  · refine ⟨messages, ?_, ?_⟩
    · rw [allExchanges_append, nothing, List.append_nil, same]
      exact before.memory
    · rw [allExchanges_append, nothing, List.append_nil, same]
      exact before.there
  · refine ⟨messages, ?_, ?_⟩
    · rw [allExchanges_append, Procedure.saves_append, Procedure.keep, List.foldl_append,
        moves.memory_eq, before.memory]
      rfl
    · intro x mem
      rw [allExchanges_append, List.mem_append] at mem
      rcases mem with old | new
      · rw [moves.memory_eq]
        exact Procedure.isSome_keep (before.there x old) _
      · exact moves.isSome_of_mem new

theorem stored_of_run {m : Memory} {n : Nat} {events : List Event} {s : Traffic}
    (run : (create m n).run? events = some s) :
    Stored m s ((create m n).history events) :=
  Run.history_induction (fun before happens => before.step (step_of_apply happens))
    ⟨rfl, rfl, fun _ mem => (nomatch mem)⟩ run

end JobNode.Manager.Traffic
