import JobNode.Proofs.Manager.Confinement
import JobNode.Proofs.Manager.Identifiers
import JobNode.Proofs.Manager.Reaching
import JobNode.Proofs.Store.Mirror

/-!
# Jobs that have nothing to do with each other

Each execution and each operation names some records: those that it was given, and the new ones whose
identifiers it draws.  If no two of them name the same record, each fares as if it were alone, however
their steps alternate.  The names of the whole run count from the start, so that a record has one
party that may touch it, also while that party has not come in yet.

* `Traffic.keysOf`, `Traffic.Apart`: the records that a party names, and that no two name the same.
* `Traffic.Separate.frame`: a step changes only records that the acting party names.
* `Traffic.Separate.step`: every party goes on as it would alone.
* `Traffic.alone_of_apart`: the whole run.
-/

namespace JobNode.Manager

open Procedure (saves)

/-- An execution that takes steps with nothing in between. -/
def Execution.run? (x : Execution) (m : Memory) (steps : List Event) : Option (Execution × Memory) :=
  Run.last? (fun s e => s.1.apply s.2 e) (x, m) steps

/-- What is noted of an execution that takes steps with nothing in between. -/
def Execution.history (x : Execution) (m : Memory) (steps : List Event) : List Mark :=
  Run.history (fun s e => s.1.apply s.2 e) (fun s e => s.1.marks s.2 e) (x, m) steps

namespace Traffic

/-! ## Steps and parties -/

namespace Event

/-- The request that comes in. -/
def request? : Event → Option Request
  | request r => some r
  | _ => none

/-- The operation that comes in. -/
def operate? : Event → Option Operation
  | operate o => some o
  | _ => none

/-- The step of an execution. -/
def step? (i : Nat) : Event → Option Execution.Event
  | execution k e => if k = i then some e else none
  | _ => none

/-- The answer to an operation. -/
def reply? (j : Nat) : Event → Option Procedure.Reply
  | operation k reply => if k = j then some reply else none
  | _ => none

/-- The party that takes the step. -/
def party? : Event → Option Party
  | execution i _ => some (.execution i)
  | operation j _ => some (.operation j)
  | _ => none

end Event

/-- The party that a mark is about. -/
def Mark.party : Mark → Party
  | execution i _ => .execution i
  | operation j _ => .operation j

/-- The requests, in the order in which they came in. -/
def requestsIn (events : List Event) : List Request := events.filterMap Event.request?

/-- The operations, in the order in which they came in. -/
def operationsIn (events : List Event) : List Operation := events.filterMap Event.operate?

/-- The steps of an execution. -/
def stepsOf (i : Nat) (events : List Event) : List Execution.Event :=
  events.filterMap (Event.step? i)

/-- The answers to an operation. -/
def repliesOf (j : Nat) (events : List Event) : List Procedure.Reply :=
  events.filterMap (Event.reply? j)

/-- The parties that have come in. -/
def parties (events : List Event) : List Party :=
  (List.range (requestsIn events).length).map .execution ++
    (List.range (operationsIn events).length).map .operation

/-- The identifiers that an execution draws. -/
def drawsOf (i : Nat) (events : List Event) : List JobId :=
  ((draws events).filter (·.1 = i)).map (·.2)

/-- The keys that a party names in the course of a run. -/
def keysOf (events : List Event) : Party → List JobKey
  | .execution i =>
    match (requestsIn events)[i]? with
    | some r => (r.existing.toList ++ drawsOf i events).map fun id => ⟨r.account, id⟩
    | none => []
  | .operation j => ((operationsIn events)[j]?.map Operation.key).toList

/-- No two parties name the same record. -/
def Apart (events : List Event) : Prop :=
  (parties events).Pairwise fun p q => ∀ key ∈ keysOf events p, key ∉ keysOf events q

instance (events : List Event) : Decidable (Apart events) :=
  inferInstanceAs (Decidable ((parties events).Pairwise fun p q =>
    ∀ key ∈ keysOf events p, key ∉ keysOf events q))

variable {m : Memory} {n i j : Nat} {all steps events : List Event} {s next : Traffic} {e : Event}
  {h : List Mark} {p q : Party} {key : JobKey}

theorem execution_mem_parties : .execution i ∈ parties events ↔ i < (requestsIn events).length := by
  simp [parties]

theorem operation_mem_parties : .operation j ∈ parties events ↔ j < (operationsIn events).length := by
  simp [parties]

theorem mem_parties_of_mem_keysOf (own : key ∈ keysOf events p) : p ∈ parties events := by
  cases p with
  | execution i =>
    rw [keysOf] at own
    split at own
    next r at_ => exact execution_mem_parties.2 (List.getElem?_eq_some_iff.1 at_).1
    · cases own
  | operation j =>
    rw [keysOf, Option.mem_toList, Option.map_eq_some_iff] at own
    obtain ⟨o, at_, -⟩ := own
    exact operation_mem_parties.2 (List.getElem?_eq_some_iff.1 at_).1

theorem Apart.not_mem (apart : Apart events) (ne : p ≠ q) (own : key ∈ keysOf events p) :
    key ∉ keysOf events q := by
  have symm : Std.Symm fun p q => ∀ key ∈ keysOf events p, key ∉ keysOf events q :=
    ⟨fun p q none key right left => none key left right⟩
  intro other
  exact List.Pairwise.forall apart (mem_parties_of_mem_keysOf own) (mem_parties_of_mem_keysOf other)
    ne key own other

/-! ## Single steps -/

theorem step?_of_ne (other : e.party? ≠ some (.execution i)) : e.step? i = none := by
  cases e with
  | execution k step =>
    refine if_neg ?_
    rintro rfl
    exact other rfl
  | _ => rfl

theorem step?_self (step : Execution.Event) : (Event.execution i step).step? i = some step :=
  if_pos rfl

theorem reply?_of_ne (other : e.party? ≠ some (.operation j)) : e.reply? j = none := by
  cases e with
  | operation k reply =>
    refine if_neg ?_
    rintro rfl
    exact other rfl
  | _ => rfl

theorem reply?_self (reply : Procedure.Reply) : (Event.operation j reply).reply? j = some reply :=
  if_pos rfl

theorem party_of_mem_marks {mark : Mark} (mem : mark ∈ s.marks e) : e.party? = some mark.party := by
  cases e with
  | execution k step =>
    rw [marks] at mem
    split at mem
    · obtain ⟨noted, -, rfl⟩ := List.mem_map.1 mem
      rfl
    · cases mem
  | operation k reply =>
    rw [marks] at mem
    split at mem
    · obtain ⟨noted, -, rfl⟩ := List.mem_map.1 mem
      rfl
    · cases mem
  | _ => cases mem

theorem of_eq_nil (silent : ∀ mark ∈ h, mark.party ≠ .execution i) : of i h = [] := by
  refine List.filterMap_eq_nil_iff.2 fun mark mem => ?_
  cases mark with
  | execution k noted =>
    refine if_neg ?_
    rintro rfl
    exact silent _ mem rfl
  | operation k x => rfl

theorem passedBy_eq_nil (silent : ∀ mark ∈ h, mark.party ≠ p) : passedBy p h = [] := by
  refine List.filterMap_eq_nil_iff.2 fun mark mem => ?_
  cases mark with
  | execution k noted => exact if_neg fun own => silent _ mem own.symm
  | operation k x => exact if_neg fun own => silent _ mem own.symm

/-- Where an execution comes from: it has waited, it has just come in, or it has gone on. -/
theorem executions_cases (happens : s.apply e = some next) {y : Execution}
    (at_ : next.executions[i]? = some y) :
    (s.executions[i]? = some y ∧ e.party? ≠ some (.execution i)) ∨
      (∃ r, e = .request r ∧ i = s.executions.length ∧ y = .create r) ∨
      ∃ x step, e = .execution i step ∧ s.executions[i]? = some x ∧
        x.apply s.memory step = some (y, next.memory) := by
  cases moves_of_apply happens with
  | request r =>
    rcases of_getElem?_concat at_ with old | ⟨new, rfl⟩
    · exact .inl ⟨old, fun eq => nomatch eq⟩
    · exact .inr (.inl ⟨r, rfl, new, rfl⟩)
  | @execution k x z step memory there moved =>
    have inRange := (List.getElem?_eq_some_iff.1 there).1
    by_cases own : k = i
    · subst own
      simp only [List.getElem?_set_self inRange, Option.some.injEq] at at_
      subst at_
      exact .inr (.inr ⟨x, step, rfl, there, moved⟩)
    · simp only [List.getElem?_set_ne own] at at_
      exact .inl ⟨at_, fun eq => own (Party.execution.inj (Option.some.inj eq))⟩
  | operate | operation | send | deliver => exact .inl ⟨at_, fun eq => nomatch eq⟩

/-- Where an operation comes from: it has waited, it has just come in, or it has gone on. -/
theorem operations_cases (happens : s.apply e = some next)
    {rest' : Procedure (Except Error (Option Job))} (at_ : next.operations[j]? = some rest') :
    (s.operations[j]? = some rest' ∧ e.party? ≠ some (.operation j)) ∨
      (∃ o, e = .operate o ∧ j = s.operations.length ∧ rest' = o.procedure) ∨
      ∃ rest reply, e = .operation j reply ∧ s.operations[j]? = some rest ∧
        rest.advance? s.memory reply = some (rest', next.memory) := by
  cases moves_of_apply happens with
  | operate o =>
    rcases of_getElem?_concat at_ with old | ⟨new, rfl⟩
    · exact .inl ⟨old, fun eq => nomatch eq⟩
    · exact .inr (.inl ⟨o, rfl, new, rfl⟩)
  | @operation k rest rest'' reply memory there advanced =>
    have inRange := (List.getElem?_eq_some_iff.1 there).1
    by_cases own : k = j
    · subst own
      simp only [List.getElem?_set_self inRange, Option.some.injEq] at at_
      subst at_
      exact .inr (.inr ⟨rest, reply, rfl, there, advanced⟩)
    · simp only [List.getElem?_set_ne own] at at_
      exact .inl ⟨at_, fun eq => own (Party.operation.inj (Option.some.inj eq))⟩
  | request | execution | send | deliver => exact .inl ⟨at_, fun eq => nomatch eq⟩

/-! ## Runs -/

/-- Every party has come to where it would be alone, and no record has changed that belongs to a
party that has not come in yet, or to none. -/
structure Separate (all : List Event) (m : Memory) (s : Traffic) (steps : List Event)
    (h : List Mark) : Prop where
  requests : s.executions.map (·.request) = requestsIn steps
  operations : s.operations.length = (operationsIn steps).length
  execution : ∀ (i : Nat) (x : Execution), s.executions[i]? = some x →
    x.stage.Within x.request.account (· ∈ keysOf all (.execution i)) ∧
      Alone Execution.apply Execution.marks (.create x.request) m (stepsOf i steps)
        (· ∈ keysOf all (.execution i)) s.memory x (of i h)
  operation : ∀ (j : Nat) (rest : Procedure (Except Error (Option Job))),
    s.operations[j]? = some rest →
    rest.Within (fun _ => True) (· ∈ keysOf all (.operation j)) (fun _ => True) ∧
      ∃ o, (operationsIn steps)[j]? = some o ∧
        Alone (fun p m reply => Procedure.advance? m p reply)
          (fun p m reply => Procedure.exchange m p reply) o.procedure m (repliesOf j steps)
          (· ∈ keysOf all (.operation j)) s.memory rest (passedBy (.operation j) h)
  idle : ∀ p, p ∉ parties steps →
    (∀ e ∈ steps, e.party? ≠ some p) ∧ ∀ mark ∈ h, mark.party ≠ p
  rest : ∀ key, (∀ p ∈ parties steps, key ∉ keysOf all p) → s.memory.get? key = m.get? key

/-- What has come in stays. -/
theorem parties_mono (more : steps <+: all) (there : p ∈ parties steps) : p ∈ parties all := by
  cases p with
  | execution i =>
    rw [execution_mem_parties] at there ⊢
    exact Nat.lt_of_lt_of_le there (more.filterMap _).length_le
  | operation j =>
    rw [operation_mem_parties] at there ⊢
    exact Nat.lt_of_lt_of_le there (more.filterMap _).length_le

theorem Separate.party_mem (before : Separate all m s steps h) (happens : s.apply e = some next)
    (acts : e.party? = some p) : p ∈ parties steps := by
  cases moves_of_apply happens with
  | execution at_ moved =>
    cases acts
    rw [execution_mem_parties, ← before.requests, List.length_map]
    exact (List.getElem?_eq_some_iff.1 at_).1
  | operation at_ advanced =>
    cases acts
    rw [operation_mem_parties, ← before.operations]
    exact (List.getElem?_eq_some_iff.1 at_).1
  | request | operate | send | deliver => cases acts

/-- A step changes only records that the acting party names. -/
theorem Separate.frame (before : Separate all m s steps h) (happens : s.apply e = some next)
    (other : ∀ p, e.party? = some p → key ∉ keysOf all p) :
    next.memory.get? key = s.memory.get? key := by
  cases moves_of_apply happens with
  | @execution i x y e memory at_ moved =>
    have isLocal := Execution.isLocal (before.execution i x at_).1 e
    exact isLocal.frame moved key (other _ rfl)
  | @operation j rest rest' reply memory at_ advanced =>
    have isLocal := (before.operation j rest at_).1.isLocal reply
    exact isLocal.frame advanced key (other _ rfl)
  | request | operate | send | deliver => rfl

/-- A step leaves the records of the parties that do not act as they are. -/
theorem Separate.agree (before : Separate all m s steps h) (apart : Apart all)
    (happens : s.apply e = some next) (waits : e.party? ≠ some p) :
    next.memory.Agree (· ∈ keysOf all p) s.memory := by
  intro key own
  refine before.frame happens fun q acts => apart.not_mem ?_ own
  rintro rfl
  exact waits acts

/-- The records of a party that comes in are as they were at first. -/
theorem Separate.agree_first (before : Separate all m s steps h) (apart : Apart all)
    (new : p ∉ parties steps) : s.memory.Agree (· ∈ keysOf all p) m := by
  intro key own
  refine before.rest key fun q there => apart.not_mem ?_ own
  rintro rfl
  exact new there

theorem getElem?_of_prefix {α : Type} {l k : List α} {a : α} (more : l <+: k)
    (at_ : l[i]? = some a) : k[i]? = some a := by
  obtain ⟨later, rfl⟩ := more
  rw [List.getElem?_append_left (List.getElem?_eq_some_iff.1 at_).1]
  exact at_

theorem Separate.request_at (before : Separate all m s steps h) (more : steps <+: all)
    {x : Execution} (at_ : s.executions[i]? = some x) : (requestsIn all)[i]? = some x.request := by
  refine getElem?_of_prefix (more.filterMap _) ?_
  change (requestsIn steps)[i]? = _
  rw [← before.requests, List.getElem?_map, at_]
  rfl

theorem mem_keysOf_existing {r : Request} {id : JobId} (at_ : (requestsIn all)[i]? = some r)
    (existing : r.existing = some id) : ⟨r.account, id⟩ ∈ keysOf all (.execution i) := by
  rw [keysOf, at_]
  exact List.mem_map.2 ⟨id, List.mem_append_left _ (Option.mem_toList.2 existing), rfl⟩

theorem mem_keysOf_drawn {r : Request} {id : JobId} (at_ : (requestsIn all)[i]? = some r)
    (drawn : .execution i (.prepare (.identifier id)) ∈ all) :
    ⟨r.account, id⟩ ∈ keysOf all (.execution i) := by
  have draw : (i, id) ∈ draws all := List.mem_filterMap.2 ⟨_, drawn, rfl⟩
  have own : id ∈ drawsOf i all :=
    List.mem_map.2 ⟨(i, id), List.mem_filter.2 ⟨draw, decide_eq_true rfl⟩, rfl⟩
  rw [keysOf, at_]
  exact List.mem_map.2 ⟨id, List.mem_append_right _ own, rfl⟩

theorem stepsOf_eq_nil (silent : ∀ e ∈ steps, e.party? ≠ some (.execution i)) :
    stepsOf i steps = [] :=
  List.filterMap_eq_nil_iff.2 fun e mem => step?_of_ne (silent e mem)

theorem repliesOf_eq_nil (silent : ∀ e ∈ steps, e.party? ≠ some (.operation j)) :
    repliesOf j steps = [] :=
  List.filterMap_eq_nil_iff.2 fun e mem => reply?_of_ne (silent e mem)

theorem marks_silent (waits : e.party? ≠ some p) : ∀ mark ∈ s.marks e, mark.party ≠ p := by
  intro mark mem own
  rw [party_of_mem_marks mem, own] at waits
  exact waits rfl

theorem Separate.execution_step (before : Separate all m s steps h) (apart : Apart all)
    (more : steps ++ [e] <+: all) (happens : s.apply e = some next) {y : Execution}
    (at_ : next.executions[i]? = some y) :
    y.stage.Within y.request.account (· ∈ keysOf all (.execution i)) ∧
      Alone Execution.apply Execution.marks (.create y.request) m (stepsOf i (steps ++ [e]))
        (· ∈ keysOf all (.execution i)) next.memory y (of i (h ++ s.marks e)) := by
  rw [stepsOf, List.filterMap_append, of_append]
  rcases executions_cases happens at_ with ⟨old, waits⟩ | ⟨r, rfl, rfl, rfl⟩ |
    ⟨x, step, rfl, there, moved⟩
  · obtain ⟨within, alone⟩ := before.execution i y old
    rw [List.filterMap_cons_none (step?_of_ne waits), of_eq_nil (marks_silent waits),
      List.filterMap_nil, List.append_nil, List.append_nil]
    exact ⟨within, alone.wait (before.agree apart happens waits)⟩
  · -- nothing has happened to the one that comes in, and its records are as they were
    have length : s.executions.length = (requestsIn steps).length := by
      rw [← before.requests, List.length_map]
    have new : Party.execution s.executions.length ∉ parties steps := by
      rw [execution_mem_parties, length]
      exact Nat.lt_irrefl _
    have known : (requestsIn all)[s.executions.length]? = some r := by
      refine getElem?_of_prefix (more.filterMap _) ?_
      rw [List.filterMap_append, length]
      exact List.getElem?_concat_length
    obtain ⟨quiet, silent⟩ := before.idle _ new
    cases happens
    rw [show steps.filterMap (Event.step? s.executions.length) = [] from stepsOf_eq_nil quiet,
      of_eq_nil silent]
    refine ⟨openJob_within r.account r.description fun id => mem_keysOf_existing known, ?_⟩
    exact .begin (before.agree_first apart new)
  · obtain ⟨within, alone⟩ := before.execution i x there
    obtain ⟨-, same⟩ := Execution.step_of_apply moved
    have known := before.request_at ((List.prefix_append _ _).trans more) there
    have marked : of i (s.marks (.execution i step)) = x.marks s.memory step := by
      rw [marks, there]
      exact of_execution_self _
    rw [same, marked, List.filterMap_cons_some (step?_self step)]
    refine ⟨Execution.within_of_apply within ?_ moved,
      alone.step (Execution.isLocal within step) moved⟩
    rintro id rfl
    exact mem_keysOf_drawn known (more.subset (List.mem_append_right _ (.head _)))

theorem Separate.operation_step (before : Separate all m s steps h) (apart : Apart all)
    (more : steps ++ [e] <+: all) (happens : s.apply e = some next)
    {rest' : Procedure (Except Error (Option Job))} (at_ : next.operations[j]? = some rest') :
    rest'.Within (fun _ => True) (· ∈ keysOf all (.operation j)) (fun _ => True) ∧
      ∃ o, (operationsIn (steps ++ [e]))[j]? = some o ∧
        Alone (fun p m reply => Procedure.advance? m p reply)
          (fun p m reply => Procedure.exchange m p reply) o.procedure m
          (repliesOf j (steps ++ [e])) (· ∈ keysOf all (.operation j)) next.memory rest'
          (passedBy (.operation j) (h ++ s.marks e)) := by
  have came : operationsIn steps <+: operationsIn (steps ++ [e]) :=
    (List.prefix_append _ _).filterMap _
  rw [repliesOf, List.filterMap_append, passedBy_append]
  rcases operations_cases happens at_ with ⟨old, waits⟩ | ⟨o, rfl, rfl, rfl⟩ |
    ⟨rest, reply, rfl, there, advanced⟩
  · obtain ⟨within, o, known, alone⟩ := before.operation j rest' old
    rw [List.filterMap_cons_none (reply?_of_ne waits), passedBy_eq_nil (marks_silent waits),
      List.filterMap_nil, List.append_nil, List.append_nil]
    exact ⟨within, o, getElem?_of_prefix came known,
      alone.wait (before.agree apart happens waits)⟩
  · have new : Party.operation s.operations.length ∉ parties steps := by
      rw [operation_mem_parties, before.operations]
      exact Nat.lt_irrefl _
    have known : (operationsIn (steps ++ [.operate o]))[s.operations.length]? = some o := by
      rw [operationsIn, List.filterMap_append, before.operations]
      exact List.getElem?_concat_length
    have whole : (operationsIn all)[s.operations.length]? = some o :=
      getElem?_of_prefix (more.filterMap _) known
    have own : o.key ∈ keysOf all (.operation s.operations.length) := by
      rw [keysOf, whole]
      exact List.mem_singleton.2 rfl
    obtain ⟨quiet, silent⟩ := before.idle _ new
    cases happens
    rw [show steps.filterMap (Event.reply? s.operations.length) = [] from repliesOf_eq_nil quiet,
      passedBy_eq_nil silent]
    exact ⟨operation_within own _, o, known, .begin (before.agree_first apart new)⟩
  · obtain ⟨within, o, known, alone⟩ := before.operation j rest there
    have marked : passedBy (.operation j) (s.marks (.operation j reply)) =
        rest.exchange s.memory reply := by
      rw [marks, there]
      exact passedBy_operation_self _
    rw [marked, List.filterMap_cons_some (reply?_self reply)]
    exact ⟨within.advance (fun _ _ => trivial) advanced, o, getElem?_of_prefix came known,
      alone.step (within.isLocal reply) advanced⟩

theorem Separate.step (before : Separate all m s steps h) (apart : Apart all)
    (more : steps ++ [e] <+: all) (happens : s.apply e = some next) :
    Separate all m next (steps ++ [e]) (h ++ s.marks e) where
  requests := by
    rw [requestsIn, List.filterMap_append, ← requestsIn, ← before.requests]
    cases moves_of_apply happens with
    | request r => rw [List.map_append]; rfl
    | @execution i x y e memory at_ moved =>
      obtain ⟨-, same⟩ := Execution.step_of_apply moved
      have inRange := (List.getElem?_eq_some_iff.1 at_).1
      have still : (s.executions.set i y).map (·.request) = s.executions.map (·.request) := by
        refine List.ext_getElem? fun k => ?_
        rw [List.getElem?_map, List.getElem?_map]
        by_cases own : i = k
        · subst own
          rw [List.getElem?_set_self inRange, at_, Option.map_some, Option.map_some, same]
        · rw [List.getElem?_set_ne own]
      rw [still]
      exact (List.append_nil _).symm
    | operate | operation | send | deliver => exact (List.append_nil _).symm
  operations := by
    rw [operationsIn, List.filterMap_append, List.length_append, ← operationsIn,
      ← before.operations]
    cases moves_of_apply happens with
    | operate o => exact List.length_append
    | operation at_ advanced => exact List.length_set
    | request | execution | send | deliver => rfl
  execution i y at_ := before.execution_step apart more happens at_
  operation j rest at_ := before.operation_step apart more happens at_
  idle p out := by
    have out' : p ∉ parties steps := fun there => out (parties_mono (List.prefix_append _ _) there)
    have waits : e.party? ≠ some p := fun acts => out' (before.party_mem happens acts)
    obtain ⟨quiet, silent⟩ := before.idle p out'
    refine ⟨fun e' mem => ?_, fun mark mem => ?_⟩
    · rcases List.mem_append.1 mem with old | new
      · exact quiet e' old
      · rw [List.mem_singleton.1 new]
        exact waits
    · rcases List.mem_append.1 mem with old | new
      · exact silent mark old
      · exact marks_silent waits mark new
  rest key others := by
    have known (p : Party) (there : p ∈ parties steps) : key ∉ keysOf all p :=
      others p (parties_mono (List.prefix_append _ _) there)
    rw [before.frame happens fun p acts => known p (before.party_mem happens acts),
      before.rest key known]

theorem separate_of_run (run : (create m n).run? all = some s) (apart : Apart all) :
    Separate all m s all ((create m n).history all) := by
  have start : Separate all m (create m n) [] [] :=
    { requests := rfl
      operations := rfl
      execution := fun _ _ at_ => (nomatch at_)
      operation := fun _ _ at_ => (nomatch at_)
      idle := fun _ _ => ⟨fun _ mem => (nomatch mem), fun _ mem => (nomatch mem)⟩
      rest := fun _ _ => rfl }
  let kept (s : Traffic) (steps : List Event) (h : List Mark) : Prop :=
    steps <+: all → Separate all m s steps h
  have whole : kept s ([] ++ all) ([] ++ (create m n).history all) :=
    Run.steps_induction (fun before happens more =>
      (before ((List.prefix_append _ _).trans more)).step apart more happens)
      (fun _ => start) run
  exact whole (List.prefix_refl all)

/-- **Jobs do not interfere.**  In every run in which no two executions or operations name the same
record, however their steps alternate and whichever of them fail: an execution has come to where its
own steps take it alone, from the first jobs, with the same marks; an operation has come to where its
own answers take it alone; the records that they name are as they would be alone, and what they can
do next is the same.  A record that nobody names is as it was.  A table that held the first jobs, and
took what was saved, holds the last ones. -/
theorem alone_of_apart (run : (create m n).run? events = some s) (apart : Apart events) :
    let h := (create m n).history events
    (∀ (i : Nat) (r : Request), (requestsIn events)[i]? = some r →
      ∃ x a, s.executions[i]? = some x ∧
        (Execution.create r).run? m (stepsOf i events) = some (x, a) ∧
        (Execution.create r).history m (stepsOf i events) = of i h ∧
        (∀ key ∈ keysOf events (.execution i), s.memory.get? key = a.get? key) ∧
        ∀ e, (x.apply s.memory e).map (·.1) = (x.apply a e).map (·.1)) ∧
    (∀ (j : Nat) (o : Operation), (operationsIn events)[j]? = some o →
      ∃ rest a, s.operations[j]? = some rest ∧
        o.procedure.advances? m (repliesOf j events) = some (rest, a) ∧
        s.memory.get? o.key = a.get? o.key ∧
        ∀ reply, (rest.advance? s.memory reply).map (·.1) = (rest.advance? a reply).map (·.1)) ∧
    (∀ key, (∀ p, key ∉ keysOf events p) → s.memory.get? key = m.get? key) ∧
    ∀ t, Mirrors t m →
      ∀ saved : List (Job × Instant), saved.map (·.1) = saves (allExchanges h) →
        Mirrors (saved.foldl (fun t entry => t.save entry.1 entry.2) t) s.memory := by
  intro h
  have separate := separate_of_run run apart
  refine ⟨fun i r came => ?_, fun j o came => ?_, fun key others => ?_, fun t mirrors saved eq => ?_⟩
  · have inRange : i < s.executions.length := by
      rw [← List.length_map Execution.request, separate.requests]
      exact (List.getElem?_eq_some_iff.1 came).1
    have at_ := List.getElem?_eq_getElem inRange
    have request := separate.request_at (List.prefix_refl _) at_
    rw [came, Option.some.injEq] at request
    obtain ⟨within, a, alone, noted, agree⟩ := separate.execution i _ at_
    rw [← request] at alone noted
    exact ⟨_, a, at_, alone, noted, agree, fun e => (Execution.isLocal within e).same_next agree⟩
  · have inRange : j < s.operations.length := by
      rw [separate.operations]
      exact (List.getElem?_eq_some_iff.1 came).1
    have at_ := List.getElem?_eq_getElem inRange
    obtain ⟨within, o', known, a, alone, -, agree⟩ := separate.operation j _ at_
    rw [came] at known
    cases known
    have own : o.key ∈ keysOf events (.operation j) := by
      rw [keysOf, came]
      exact List.mem_singleton.2 rfl
    exact ⟨_, a, at_, alone, agree o.key own, fun reply =>
      (within.isLocal reply).same_next agree⟩
  · exact separate.rest key fun p _ => others p
  · rw [(stored_of_run run).memory, ← eq]
    exact mirrors.saveAll saved

/-- Jobs of two accounts, one under the identifier that a call of the other account draws. -/
def sampleMemory : Memory :=
  (Memory.empty.save (.create ⟨.ofNat 4⟩ .zero "theirs" .epoch)).save
    (.create ⟨.ofNat 9⟩ sampleAccount "older" .epoch)

/-- A call creates a job while another resumes the job of that identifier in another account, and a
task of a third job is recorded.  The work that was resumed fails. -/
def sampleParallel : List Event :=
  [.request ⟨sampleAccount, none, "ours"⟩, .request ⟨.zero, some ⟨.ofNat 4⟩, "again"⟩,
    .operate (.updateTask ⟨sampleAccount, ⟨.ofNat 9⟩⟩ .success "step" "done"),
    .execution 1 (.prepare .served), .execution 0 (.prepare (.identifier ⟨.ofNat 4⟩)),
    .operation 0 .served, .execution 1 .enter, .execution 0 (.prepare (.time .epoch)),
    .execution 1 (.endWork (.error "boom")), .execution 1 .choose, .execution 1 (.finalize .served),
    .execution 0 (.prepare .served), .operation 0 (.time .epoch), .execution 0 .enter,
    .execution 1 (.finalize (.time .epoch)), .execution 1 (.finalize .served), .operation 0 .served,
    .execution 1 (.finish .epoch)]

theorem sampleParallel_alone :
    let theirs : JobKey := ⟨.zero, ⟨.ofNat 4⟩⟩
    let r : Request := ⟨.zero, some ⟨.ofNat 4⟩, "again"⟩
    Apart sampleParallel ∧
      ∃ s x a, (create sampleMemory 1).run? sampleParallel = some s ∧
        (Execution.create r).run? sampleMemory (stepsOf 1 sampleParallel) = some (x, a) ∧
        s.memory.get? theirs = a.get? theirs ∧
        (s.memory.get? theirs).map (·.status) = some .failed ∧
        (s.memory.get? ⟨sampleAccount, ⟨.ofNat 4⟩⟩).map (·.status) = some .pending := by
  intro theirs r
  have run : (create sampleMemory 1).run? sampleParallel = some _ := rfl
  have apart : Apart sampleParallel := by decide +kernel
  obtain ⟨executions, -⟩ := alone_of_apart run apart
  obtain ⟨x, a, -, alone, -, same, -⟩ := executions 1 r rfl
  exact ⟨apart, _, x, a, run, alone, same theirs (.head _), rfl, rfl⟩

end Traffic

end JobNode.Manager
