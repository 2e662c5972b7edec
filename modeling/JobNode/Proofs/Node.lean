import JobNode.Node
import JobNode.Proofs.Run
import Mathlib.Data.List.Perm.Subperm

/-!
# Servers as one unit

Servers report errors, return and are cancelled in any order, and the node looks at the reports, the
cancellation and the end of all servers one after the other, with steps of the others in between.  What
it returns is decided by the look that ends the wait, and by what there was to be seen at the looks
before it: an error is returned just if it was there at the last look at the reports.

* `Step`, `step_of_apply`: the ways in which a node may go on.
* `Progress`, `Reporting`, `Flags`, `Pass`: what the state of a node tells of its steps so far, kept by
  every step; `tells_of_run` says so of every run.
* `exists_room`: a server that has not reported finds room for its report.
* `Decides`, `all_gone_of_finish`: what the end of the wait and the end of the run rest on.
* `exists_comesTo`: a node that has something to see and is left alone sees it.
* `working_le_of_run`: there is only so much to do, so a run that goes on comes to rest.
* `servers_as_unit`: what every run of a node does.
* `sampleLost_lost`: a report between two looks is lost.
-/

namespace JobNode

/-- What the node looks at after it has found nothing. -/
def Look.after : Look → Look
  | reports => cancellation
  | cancellation => servers
  | servers => reports

namespace Node

/-! ## Steps -/

/-- What there is to be seen at the next look. -/
def found? (n : Node) : Option (Except Error Unit) :=
  match n.upcoming with
  | .reports => n.reports.head?.map .error
  | .cancellation => if n.cancelled then some (.ok ()) else none
  | .servers => if n.allReturned then some (.ok ()) else none

/-- The ways in which a node may go on. -/
inductive Step (n : Node) : Event → Node → Prop
  | enter {i : Nat} :
    n.members[i]? = some .spawned → Step n (.enter i) { n with members := n.members.set i .running }
  | report {i : Nat} (e : Error) :
    n.members[i]? = some .running → i ∉ n.reporters → n.reports.length < n.capacity →
    Step n (.report i e) { n with reporters := n.reporters ++ [i], reports := n.reports ++ [e] }
  | leave {i : Nat} :
    n.members[i]? = some .running → Step n (.leave i) { n with members := n.members.set i .returned }
  | cancel : Step n .cancel { n with cancelled := true }
  | pass : n.outcome = none → n.found? = none →
    Step n .look { n with upcoming := n.upcoming.after }
  | decide {outcome : Except Error Unit} {rest : List Error} : n.outcome = none →
    n.found? = some outcome → rest <:+ n.reports →
    Step n .look ({ n with reports := rest }.conclude outcome)
  | finish :
    n.outcome.isSome = true → n.allReturned = true → Step n .finish { n with finished := true }

variable {n next : Node} {e : Event}

theorem step_of_apply (happens : n.apply e = some next) : Step n e next := by
  cases e with
  | enter i =>
    rw [apply] at happens
    split at happens
    next at_ =>
      cases happens
      exact .enter at_
    · cases happens
  | report i e =>
    rw [apply] at happens
    split at happens
    next at_ =>
      split at happens
      · cases happens
      next new =>
        split at happens
        next room =>
          cases happens
          exact .report e at_ (by simpa using new) room
        · cases happens
    · cases happens
  | leave i =>
    rw [apply] at happens
    split at happens
    next at_ =>
      cases happens
      exact .leave at_
    · cases happens
  | cancel =>
    cases happens
    exact .cancel
  | look =>
    cases n with
    | mk members reporters capacity reports upcoming cancelled stopping outcome finished =>
      cases outcome with
      | some outcome => cases happens
      | none =>
        cases upcoming with
        | reports =>
          cases reports with
          | cons e rest =>
            cases happens
            exact .decide rfl rfl (List.suffix_cons e rest)
          | nil =>
            cases happens
            exact .pass rfl rfl
        | cancellation =>
          cases cancelled with
          | true =>
            cases happens
            exact .decide rfl rfl (List.suffix_refl reports)
          | false =>
            cases happens
            exact .pass rfl rfl
        | servers =>
          rw [apply, Option.some.injEq] at happens
          split at happens
          next all =>
            subst happens
            exact .decide rfl (if_pos all) (List.suffix_refl reports)
          next some =>
            subst happens
            exact .pass rfl (if_neg some)
  | finish =>
    rw [apply] at happens
    split at happens
    next ready =>
      cases happens
      exact .finish ready.1 ready.2
    · cases happens

/-- The node after steps; none if one of them cannot happen. -/
def run? (n : Node) (events : List Event) : Option Node := Run.last? apply n events

/-! ## What has happened -/

namespace Event

/-- The server whose start is called. -/
def entered? : Event → Option Nat
  | enter i => some i
  | _ => none

/-- The server that returns. -/
def left? : Event → Option Nat
  | leave i => some i
  | _ => none

/-- The server that reports, and its error. -/
def report? : Event → Option (Nat × Error)
  | report i e => some (i, e)
  | _ => none

/-- The node looks. -/
def isLook : Event → Bool
  | look => true
  | _ => false

/-- A server gets somewhere. -/
def isWork : Event → Bool
  | cancel | look | finish => false
  | _ => true

end Event

/-- The servers whose start was called, in order. -/
def started (events : List Event) : List Nat := events.filterMap Event.entered?

/-- The servers that have returned, in order. -/
def left (events : List Event) : List Nat := events.filterMap Event.left?

/-- The errors that were reported and who has reported them, in order. -/
def reported (events : List Event) : List (Nat × Error) := events.filterMap Event.report?

/-- How often the node has looked. -/
def looks (events : List Event) : Nat := events.countP Event.isLook

/-- The steps other than those that may be taken again and again. -/
def working (events : List Event) : List Event := events.filter Event.isWork

variable {servers : Nat} {steps events : List Event}

@[simp]
theorem started_concat : started (steps ++ [e]) = started steps ++ e.entered?.toList := by
  cases e <;> simp [started, Event.entered?]

@[simp]
theorem left_concat : left (steps ++ [e]) = left steps ++ e.left?.toList := by
  cases e <;> simp [left, Event.left?]

@[simp]
theorem reported_concat : reported (steps ++ [e]) = reported steps ++ e.report?.toList := by
  cases e <;> simp [reported, Event.report?]

@[simp]
theorem looks_concat : looks (steps ++ [e]) = looks steps + e.isLook.toNat := by
  cases e <;> simp [looks, Event.isLook]

/-- Whatever gets a server somewhere is a start, a departure or a report. -/
theorem length_working (events : List Event) :
    (working events).length =
      (started events).length + (left events).length + (reported events).length := by
  unfold working started left reported
  induction events with
  | nil => rfl
  | cons e rest ih =>
    cases e <;>
      simp only [List.filter_cons, List.filterMap_cons, Event.isWork, Event.entered?, Event.left?,
        Event.report?, if_true, List.length_cons, ih, reduceCtorEq, if_false] <;>
      omega

/-! ## The servers -/

/-- How far a server has come with the steps so far. -/
def stageOf (steps : List Event) (i : Nat) : Member :=
  if i ∈ left steps then .returned else if i ∈ started steps then .running else .spawned

/-- The members show how far the servers have come; a start is called once, and only a server that
was started returns. -/
structure Progress (servers : Nat) (n : Node) (steps : List Event) : Prop where
  members : n.members = (List.range servers).map (stageOf steps)
  once : (started steps).Nodup
  left_once : (left steps).Nodup
  started_lt : ∀ i ∈ started steps, i < servers
  left_started : ∀ i ∈ left steps, i ∈ started steps

namespace Progress

variable (progress : Progress servers n steps)
include progress

theorem member_eq {i : Nat} (known : i < servers) : n.members[i]? = some (stageOf steps i) := by
  simp [progress.members, known]

theorem lt_of_member {i : Nat} {m : Member} (at_ : n.members[i]? = some m) :
    i < servers ∧ m = stageOf steps i := by
  rw [progress.members, List.getElem?_map, Option.map_eq_some_iff] at at_
  obtain ⟨j, there, rfl⟩ := at_
  obtain ⟨inRange, rfl⟩ := List.getElem?_eq_some_iff.1 there
  simpa using inRange

theorem of_spawned {i : Nat} (at_ : n.members[i]? = some .spawned) :
    i < servers ∧ i ∉ started steps := by
  obtain ⟨known, stage⟩ := progress.lt_of_member at_
  refine ⟨known, fun mem => ?_⟩
  unfold stageOf at stage
  split at stage
  · cases stage
  · simp at stage

theorem of_running {i : Nat} (at_ : n.members[i]? = some .running) :
    i < servers ∧ i ∈ started steps ∧ i ∉ left steps := by
  obtain ⟨known, stage⟩ := progress.lt_of_member at_
  unfold stageOf at stage
  split at stage
  · cases stage
  next still =>
    split at stage
    next mem => exact ⟨known, mem, still⟩
    · cases stage

theorem spawned {i : Nat} (known : i < servers) (new : i ∉ started steps) :
    n.members[i]? = some .spawned := by
  rw [progress.member_eq known, stageOf, if_neg fun mem => new (progress.left_started i mem),
    if_neg new]

theorem running {i : Nat} (mem : i ∈ started steps) (still : i ∉ left steps) :
    n.members[i]? = some .running := by
  rw [progress.member_eq (progress.started_lt i mem), stageOf, if_neg still, if_pos mem]

theorem allReturned_iff : n.allReturned = true ↔ ∀ i < servers, i ∈ left steps := by
  have returned (i : Nat) : stageOf steps i = .returned ↔ i ∈ left steps := by
    unfold stageOf
    split
    next mem => simp [mem]
    next still => split <;> simp [still]
  simp [allReturned, progress.members, returned]

end Progress

theorem progress_create (servers : Nat) : Progress servers (create servers) [] where
  members := by
    refine List.ext_getElem (by simp [create]) fun i _ _ => ?_
    simp [create, stageOf, left, started]
  once := .nil
  left_once := .nil
  started_lt _ mem := nomatch mem
  left_started _ mem := nomatch mem

/-- To move one server on is to change its place in the list. -/
theorem map_stageOf_set {i : Nat} {m : Member} (moved : stageOf (steps ++ [e]) i = m)
    (others : ∀ j, j ≠ i → stageOf (steps ++ [e]) j = stageOf steps j) :
    ((List.range servers).map (stageOf steps)).set i m =
      (List.range servers).map (stageOf (steps ++ [e])) := by
  refine List.ext_getElem (by simp) fun j _ _ => ?_
  rw [List.getElem_set]
  by_cases own : i = j
  · subst own
    simp [moved]
  · simp [own, others j (Ne.symm own)]

theorem Progress.step (progress : Progress servers n steps) (step : Step n e next) :
    Progress servers next (steps ++ [e]) := by
  -- only an entry and a departure say something about the servers
  have silent (members : next.members = n.members) (entered : e.entered? = none)
      (gone : e.left? = none) : Progress servers next (steps ++ [e]) := by
    have same : stageOf (steps ++ [e]) = stageOf steps := by
      funext i
      simp [stageOf, entered, gone]
    refine ⟨?_, ?_, ?_, ?_, ?_⟩
    · rw [members, same]
      exact progress.members
    · simpa [entered] using progress.once
    · simpa [gone] using progress.left_once
    · simpa [entered] using progress.started_lt
    · simpa [entered, gone] using progress.left_started
  cases step with
  | @enter i at_ =>
    obtain ⟨known, new⟩ := progress.of_spawned at_
    have still : i ∉ left steps := fun mem => new (progress.left_started i mem)
    refine ⟨?_, ?_, ?_, ?_, ?_⟩
    · change n.members.set i .running = _
      rw [progress.members]
      refine map_stageOf_set ?_ fun j ne => ?_
      · simp [stageOf, Event.entered?, Event.left?, still]
      · simp [stageOf, Event.entered?, Event.left?, ne]
    · simpa [Event.entered?, List.nodup_append, progress.once] using fun j mem => by
        rintro rfl
        exact new mem
    · simpa [Event.left?] using progress.left_once
    · intro j mem
      rcases List.mem_append.1 (started_concat ▸ mem) with old | now
      · exact progress.started_lt j old
      · cases List.mem_singleton.1 now
        exact known
    · intro j mem
      rw [started_concat]
      exact List.mem_append_left _ (progress.left_started j (by simpa [Event.left?] using mem))
  | @leave i at_ =>
    obtain ⟨known, there, still⟩ := progress.of_running at_
    refine ⟨?_, ?_, ?_, ?_, ?_⟩
    · change n.members.set i .returned = _
      rw [progress.members]
      refine map_stageOf_set ?_ fun j ne => ?_
      · simp [stageOf, Event.left?]
      · simp [stageOf, Event.entered?, Event.left?, ne]
    · simpa [Event.entered?] using progress.once
    · simpa [Event.left?, List.nodup_append, progress.left_once] using fun j mem => by
        rintro rfl
        exact still mem
    · simpa [Event.entered?] using progress.started_lt
    · intro j mem
      rw [started_concat]
      rcases List.mem_append.1 (left_concat ▸ mem) with old | now
      · exact List.mem_append_left _ (progress.left_started j old)
      · cases List.mem_singleton.1 now
        exact List.mem_append_left _ there
  | report e at_ new room => exact silent rfl rfl rfl
  | cancel => exact silent rfl rfl rfl
  | pass => exact silent rfl rfl rfl
  | decide => exact silent rfl rfl rfl
  | finish ended all => exact silent rfl rfl rfl

/-! ## The reports -/

/-- Each server reports once, after its start; the reports wait in order until the race is decided.
-/
structure Reporting (servers : Nat) (n : Node) (steps : List Event) : Prop where
  capacity : n.capacity = max servers 1
  reporters : n.reporters = (reported steps).map Prod.fst
  once : n.reporters.Nodup
  started : ∀ i ∈ n.reporters, i ∈ started steps
  length_le : n.reports.length ≤ n.reporters.length
  waiting : n.outcome = none → n.reports = (reported steps).map Prod.snd

theorem reporting_create (servers : Nat) : Reporting servers (create servers) [] where
  capacity := rfl
  reporters := rfl
  once := .nil
  started _ mem := nomatch mem
  length_le := Nat.le_refl 0
  waiting _ := rfl

theorem Reporting.step (reporting : Reporting servers n steps) (progress : Progress servers n steps)
    (step : Step n e next) : Reporting servers next (steps ++ [e]) := by
  have started (i : Nat) (mem : i ∈ n.reporters) : i ∈ Node.started (steps ++ [e]) := by
    rw [started_concat]
    exact List.mem_append_left _ (reporting.started i mem)
  have silent (none : e.report? = none) (capacity : next.capacity = n.capacity)
      (reporters : next.reporters = n.reporters) (reports : next.reports = n.reports)
      (outcome : next.outcome = n.outcome) : Reporting servers next (steps ++ [e]) := by
    have same : reported (steps ++ [e]) = reported steps := by simp [none]
    refine ⟨?_, ?_, ?_, ?_, ?_, ?_⟩
    · rw [capacity]
      exact reporting.capacity
    · rw [reporters, same]
      exact reporting.reporters
    · rw [reporters]
      exact reporting.once
    · rw [reporters]
      exact started
    · rw [reporters, reports]
      exact reporting.length_le
    · rw [outcome, reports, same]
      exact reporting.waiting
  cases step with
  | enter at_ => exact silent rfl rfl rfl rfl rfl
  | leave at_ => exact silent rfl rfl rfl rfl rfl
  | cancel => exact silent rfl rfl rfl rfl rfl
  | finish ended all => exact silent rfl rfl rfl rfl rfl
  | pass => exact silent rfl rfl rfl rfl rfl
  | decide _ _ fewer =>
    refine ⟨reporting.capacity, by simpa [conclude, Event.report?] using reporting.reporters,
      reporting.once, started, ?_, fun undecided => nomatch undecided⟩
    exact Nat.le_trans fewer.length_le reporting.length_le
  | @report i e at_ new room =>
    obtain ⟨-, there, -⟩ := progress.of_running at_
    refine ⟨reporting.capacity, ?_, ?_, ?_, ?_, fun undecided => ?_⟩
    · simp [Event.report?, reporting.reporters]
    · simpa [List.nodup_append, reporting.once] using fun j mem => by
        rintro rfl
        exact new mem
    · intro j mem
      rcases List.mem_append.1 mem with old | now
      · exact started j old
      · cases List.mem_singleton.1 now
        rw [started_concat]
        exact List.mem_append_left _ there
    · simpa using reporting.length_le
    · simp [Event.report?, reporting.waiting undecided]

/-- A server that has not reported finds room for its report. -/
theorem exists_room (progress : Progress servers n steps) (reporting : Reporting servers n steps)
    {i : Nat} (running : n.members[i]? = some .running) (new : i ∉ n.reporters) :
    n.reports.length < n.capacity := by
  -- the reporters and this server are different servers
  have others : (i :: n.reporters).Nodup := List.nodup_cons.2 ⟨new, reporting.once⟩
  have known : i :: n.reporters ⊆ List.range servers := by
    intro j mem
    rw [List.mem_range]
    rcases List.mem_cons.1 mem with rfl | mem
    · exact (progress.of_running running).1
    · exact progress.started_lt j (reporting.started j mem)
  have fit : n.reporters.length + 1 ≤ servers := by
    simpa using (List.subperm_of_subset others known).length_le
  have := reporting.length_le
  rw [reporting.capacity]
  omega

/-! ## What is over -/

/-- The flags of a node tell which steps there were. -/
structure Flags (n : Node) (steps : List Event) : Prop where
  cancelled : n.cancelled = true ↔ Event.cancel ∈ steps
  stopping : n.stopping = n.outcome.isSome
  finished : n.finished = true ↔ Event.finish ∈ steps
  ended : n.finished = true → n.outcome.isSome = true

theorem flags_create (servers : Nat) : Flags (create servers) [] := by
  constructor <;> simp [create]

theorem Flags.step (flags : Flags n steps) (step : Step n e next) : Flags next (steps ++ [e]) := by
  cases step with
  | cancel =>
    exact ⟨by simp, flags.stopping, by simpa using flags.finished, flags.ended⟩
  | decide =>
    exact ⟨by simpa [conclude] using flags.cancelled, rfl, by simpa [conclude] using flags.finished,
      fun _ => rfl⟩
  | finish ended all =>
    exact ⟨by simpa using flags.cancelled, flags.stopping, by simp, fun _ => ended⟩
  | enter at_ =>
    exact ⟨by simpa using flags.cancelled, flags.stopping, by simpa using flags.finished,
      flags.ended⟩
  | leave at_ =>
    exact ⟨by simpa using flags.cancelled, flags.stopping, by simpa using flags.finished,
      flags.ended⟩
  | report e at_ new room =>
    exact ⟨by simpa using flags.cancelled, flags.stopping, by simpa using flags.finished,
      flags.ended⟩
  | pass =>
    exact ⟨by simpa using flags.cancelled, flags.stopping, by simpa using flags.finished,
      flags.ended⟩

theorem Flags.serversCancelled_iff (flags : Flags n steps) :
    n.serversCancelled = true ↔ Event.cancel ∈ steps ∨ n.outcome.isSome = true := by
  rw [serversCancelled, Bool.or_eq_true, flags.cancelled, flags.stopping]

/-! ## Looks -/

/-- Where the node is on its way from one look at the reports to the next, and what it has not found on
the way. -/
inductive Pass (steps : List Event) : Look → Prop
  | reports : looks steps % 3 = 0 → Pass steps .reports
  | cancellation {early late : List Event} : steps = early ++ .look :: late → looks early % 3 = 0 →
    looks late = 0 → reported early = [] → Pass steps .cancellation
  | servers {early mid late : List Event} : steps = early ++ .look :: (mid ++ .look :: late) →
    looks early % 3 = 0 → looks mid = 0 → looks late = 0 → reported early = [] →
    Event.cancel ∉ early ++ mid → Pass steps .servers

/-- A step that is no look leaves the node where it is. -/
theorem Pass.concat {look : Look} (pass : Pass steps look) (other : e.isLook = false) :
    Pass (steps ++ [e]) look := by
  cases pass with
  | reports begins =>
    refine .reports ?_
    rw [looks_concat, other]
    exact begins
  | @cancellation early late split begins none unheard =>
    have further : steps ++ [e] = early ++ .look :: (late ++ [e]) := by rw [split]; simp
    refine .cancellation further begins ?_ unheard
    rw [looks_concat, none, other]
    rfl
  | @servers early mid late split begins first none unheard kept =>
    have further : steps ++ [e] = early ++ .look :: (mid ++ .look :: (late ++ [e])) := by
      rw [split]
      simp
    refine .servers further begins first ?_ unheard kept
    rw [looks_concat, none, other]
    rfl

/-- How a look ends the wait, given the steps before it: with the first report, if there is one at the
look at the reports, and otherwise because of a cancellation or because nobody is left. -/
inductive Decides (servers : Nat) (before : List Event) : Except Error Unit → Prop
  | report {i : Nat} {e : Error} {others : List (Nat × Error)} : Pass before .reports →
    reported before = (i, e) :: others → Decides servers before (.error e)
  | cancelled : Pass before .cancellation → Event.cancel ∈ before → Decides servers before (.ok ())
  | gone : Pass before .servers → (∀ i < servers, i ∈ left before) →
    Decides servers before (.ok ())

/-! ## Runs -/

/-- What the state of a node tells of its steps so far. -/
structure Tells (servers : Nat) (n : Node) (steps : List Event) : Prop where
  progress : Progress servers n steps
  reporting : Reporting servers n steps
  flags : Flags n steps
  pass : n.outcome = none → Pass steps n.upcoming
  decided : ∀ outcome, n.outcome = some outcome → ∃ before after,
    steps = before ++ .look :: after ∧ looks after = 0 ∧ Decides servers before outcome

section Tells

variable (tells : Tells servers n steps)
include tells

/-- What is to be seen at the next look, by the steps so far. -/
theorem Tells.decides {outcome : Except Error Unit} (undecided : n.outcome = none)
    (found : n.found? = some outcome) : Decides servers steps outcome := by
  have pass := tells.pass undecided
  rw [found?] at found
  cases look : n.upcoming with
  | reports =>
    rw [look] at found pass
    rw [tells.reporting.waiting undecided] at found
    cases first : reported steps with
    | nil =>
      rw [first] at found
      cases found
    | cons report others =>
      rw [first] at found
      cases found
      exact .report pass first
  | cancellation =>
    rw [look] at found pass
    simp only [Option.ite_none_right_eq_some] at found
    obtain ⟨cancelled, eq⟩ := found
    cases eq
    exact .cancelled pass (tells.flags.cancelled.1 cancelled)
  | servers =>
    rw [look] at found pass
    simp only [Option.ite_none_right_eq_some] at found
    obtain ⟨all, eq⟩ := found
    cases eq
    exact .gone pass (tells.progress.allReturned_iff.1 all)

/-- A look that finds nothing takes the node on its way. -/
theorem Tells.passes (undecided : n.outcome = none) (none : n.found? = none) :
    Pass (steps ++ [.look]) n.upcoming.after := by
  have pass := tells.pass undecided
  rw [found?] at none
  cases look : n.upcoming with
  | reports =>
    rw [look] at none pass
    rw [tells.reporting.waiting undecided] at none
    cases pass with
    | reports begins =>
      have further : steps ++ [.look] = steps ++ .look :: [] := rfl
      refine .cancellation further begins rfl ?_
      simpa using none
  | cancellation =>
    rw [look] at none pass
    cases pass with
    | @cancellation early late split begins silent unheard =>
      have further : steps ++ [.look] = early ++ .look :: (late ++ .look :: []) := by
        rw [split]
        simp
      refine .servers further begins silent rfl unheard ?_
      intro mem
      have cancelled : n.cancelled = true := by
        rw [tells.flags.cancelled, split]
        simpa using mem
      simp [cancelled] at none
  | servers =>
    rw [look] at pass
    cases pass with
    | @servers early mid late split begins first last unheard kept =>
      refine .reports ?_
      have count : looks steps = looks early + looks mid + looks late + 2 := by
        rw [split]
        simp only [looks, List.countP_append, List.countP_cons, Event.isLook, if_true]
        omega
      rw [looks_concat, count, first, last]
      simp only [Event.isLook, Bool.toNat_true]
      omega

theorem Tells.step (happens : n.apply e = some next) : Tells servers next (steps ++ [e]) := by
  have step := step_of_apply happens
  -- a step that is no look changes nothing of what the node has found
  have other (notLook : e.isLook = false) (outcome : next.outcome = n.outcome)
      (upcoming : next.upcoming = n.upcoming) :
      (next.outcome = none → Pass (steps ++ [e]) next.upcoming) ∧
        ∀ outcome, next.outcome = some outcome → ∃ before after,
          steps ++ [e] = before ++ .look :: after ∧ looks after = 0 ∧
            Decides servers before outcome := by
    rw [outcome, upcoming]
    refine ⟨fun undecided => (tells.pass undecided).concat notLook, fun outcome decided => ?_⟩
    obtain ⟨before, after, split, last, decides⟩ := tells.decided outcome decided
    refine ⟨before, after ++ [e], by rw [split]; simp, ?_, decides⟩
    rw [looks_concat, last, notLook]
    rfl
  have looked : (next.outcome = none → Pass (steps ++ [e]) next.upcoming) ∧
      ∀ outcome, next.outcome = some outcome → ∃ before after,
        steps ++ [e] = before ++ .look :: after ∧ looks after = 0 ∧
          Decides servers before outcome := by
    cases step with
    | enter | report | leave | cancel | finish => exact other rfl rfl rfl
    | pass undecided none =>
      refine ⟨fun _ => tells.passes undecided none, fun outcome decided => ?_⟩
      cases undecided.symm.trans decided
    | decide undecided found =>
      refine ⟨fun open_ => (nomatch open_), fun outcome decided => ?_⟩
      cases decided
      exact ⟨steps, [], rfl, rfl, tells.decides undecided found⟩
  exact ⟨tells.progress.step step, tells.reporting.step tells.progress step, tells.flags.step step,
    looked.1, looked.2⟩

end Tells

theorem tells_create (servers : Nat) : Tells servers (create servers) [] where
  progress := progress_create servers
  reporting := reporting_create servers
  flags := flags_create servers
  pass _ := .reports rfl
  decided _ decided := nomatch decided

theorem tells_of_run (run : (create servers).run? events = some n) : Tells servers n events :=
  Run.events_induction (Tells servers) Tells.step (tells_create servers) run

/-! ## Looks that nobody disturbs -/

/-- The node comes to its outcome by looks alone. -/
def ComesTo (n : Node) (outcome : Except Error Unit) : Prop :=
  ∃ k m, n.run? (List.replicate k .look) = some m ∧ m.outcome = some outcome

theorem ComesTo.look {outcome : Except Error Unit} (happens : n.apply .look = some next)
    (later : ComesTo next outcome) : ComesTo n outcome := by
  obtain ⟨k, m, run, came⟩ := later
  refine ⟨k + 1, m, ?_, came⟩
  rw [List.replicate_succ, run?, Run.last?, happens]
  exact run

/-- The node comes to what there is to be seen at the next look. -/
theorem comesTo_of_found {outcome : Except Error Unit} (undecided : n.outcome = none)
    (found : n.found? = some outcome) : ComesTo n outcome := by
  have ends {m : Node} (happens : n.apply .look = some m) (came : m.outcome = some outcome) :
      ComesTo n outcome := .look happens ⟨0, m, rfl, came⟩
  rw [found?] at found
  cases upcoming : n.upcoming with
  | reports =>
    rw [upcoming] at found
    obtain ⟨e, first, rfl⟩ := Option.map_eq_some_iff.1 found
    cases waiting : n.reports with
    | nil => simp [waiting] at first
    | cons e' rest =>
      rw [waiting] at first
      cases first
      refine ends (m := Node.conclude { n with reports := rest } (.error e)) ?_ rfl
      simp only [apply, undecided, upcoming, waiting]
  | cancellation =>
    rw [upcoming] at found
    simp only [Option.ite_none_right_eq_some] at found
    obtain ⟨cancelled, eq⟩ := found
    cases eq
    refine ends (m := n.conclude (.ok ())) ?_ rfl
    simp only [apply, undecided, upcoming, cancelled, if_true]
  | servers =>
    rw [upcoming] at found
    simp only [Option.ite_none_right_eq_some] at found
    obtain ⟨all, eq⟩ := found
    cases eq
    refine ends (m := n.conclude (.ok ())) ?_ rfl
    simp only [apply, undecided, upcoming, all, if_true]

/-- A look that finds nothing takes the node to the next one. -/
theorem apply_look_of_none (undecided : n.outcome = none) (none : n.found? = none) :
    n.apply .look = some { n with upcoming := n.upcoming.after } := by
  rw [found?] at none
  cases upcoming : n.upcoming with
  | reports =>
    rw [upcoming] at none
    have waiting : n.reports = [] := by simpa using none
    simp only [apply, undecided, upcoming, waiting, Look.after]
  | cancellation =>
    rw [upcoming] at none
    have kept : n.cancelled = false := by simpa using none
    simp only [apply, undecided, upcoming, kept, Look.after, Bool.false_eq_true, if_false]
  | servers =>
    rw [upcoming] at none
    have some : n.allReturned = false := by simpa using none
    simp only [apply, undecided, upcoming, some, Look.after, Bool.false_eq_true, if_false]

theorem ComesTo.pass {outcome : Except Error Unit} (undecided : n.outcome = none)
    (none : n.found? = none)
    (later : ComesTo { n with upcoming := n.upcoming.after } outcome) : ComesTo n outcome :=
  .look (apply_look_of_none undecided none) later

/-- A node that begins to look and is left alone comes to what there is to be seen. -/
theorem comesTo_verdict {outcome : Except Error Unit} (undecided : n.outcome = none)
    (begins : n.upcoming = .reports) (verdict : n.verdict? = some outcome) :
    ComesTo n outcome := by
  rw [verdict?] at verdict
  cases waiting : n.reports with
  | cons e rest =>
    rw [waiting] at verdict
    cases verdict
    exact comesTo_of_found undecided (by simp [found?, begins, waiting])
  | nil =>
    rw [waiting] at verdict
    simp only [Option.ite_none_right_eq_some] at verdict
    obtain ⟨due, eq⟩ := verdict
    cases eq
    refine .pass undecided (by simp [found?, begins, waiting]) ?_
    rw [begins]
    cases cancelled : n.cancelled with
    | true => exact comesTo_of_found undecided (by simp [found?, Look.after])
    | false =>
      refine .pass undecided (by simp [found?, Look.after]) ?_
      have all : n.allReturned = true := by simpa [cancelled] using due
      exact comesTo_of_found undecided (if_pos all)

/-- A node that has something to see and is left alone comes to an outcome, wherever it is. -/
theorem exists_comesTo (undecided : n.outcome = none) (due : n.verdict?.isSome = true) :
    ∃ outcome, ComesTo n outcome := by
  obtain ⟨verdict, eq⟩ := Option.isSome_iff_exists.1 due
  -- a look either ends the wait or brings the node closer to the next look at the reports
  have onward {m : Node} (open_ : m.outcome = none)
      (later : ∃ outcome, ComesTo { m with upcoming := m.upcoming.after } outcome) :
      ∃ outcome, ComesTo m outcome := by
    cases found : m.found? with
    | some outcome => exact ⟨outcome, comesTo_of_found open_ found⟩
    | none =>
      obtain ⟨outcome, comes⟩ := later
      exact ⟨outcome, comes.pass open_ found⟩
  have again {m : Node} (open_ : m.outcome = none) (begins : m.upcoming = .reports)
      (same : m.verdict? = n.verdict?) : ∃ outcome, ComesTo m outcome :=
    ⟨verdict, comesTo_verdict open_ begins (same.trans eq)⟩
  cases upcoming : n.upcoming with
  | reports => exact again undecided upcoming rfl
  | servers => exact onward undecided (again undecided (by rw [upcoming]; rfl) rfl)
  | cancellation =>
    refine onward undecided (onward undecided (again undecided ?_ rfl))
    rw [upcoming]
    rfl

/-! ## Rest -/

/-- Nothing is left to happen: every server was started, those that were told to stop have returned,
and the node itself can go no further, however often it looks. -/
structure Rests (n : Node) : Prop where
  entered : ∀ i : Nat, n.members[i]? ≠ some Member.spawned
  stopped : n.serversCancelled = true → ∀ i : Nat, n.members[i]? ≠ some Member.running
  blind : ∀ outcome, n.outcome = none → ¬ n.ComesTo outcome
  finished : n.finished = true ∨ n.apply .finish = none

/-- A node that can go no further has returned, unless it still waits for something to happen. -/
theorem Rests.finished_iff (rests : Rests n) (tells : Tells servers n steps)
    (ended : n.finished = true → ∀ i < servers, i ∈ left steps) :
    n.finished = true ↔
      reported steps ≠ [] ∨ Event.cancel ∈ steps ∨ ∀ i < servers, i ∈ left steps := by
  refine ⟨fun finished => .inr (.inr (ended finished)), fun due => ?_⟩
  have decided : n.outcome.isSome = true := by
    cases undecided : n.outcome with
    | some outcome => rfl
    | none =>
      have seen : n.verdict?.isSome = true := by
        rw [verdict?, tells.reporting.waiting undecided]
        cases first : reported steps with
        | cons report others => rfl
        | nil =>
          have returned := due.resolve_left fun some => some first
          rw [← tells.flags.cancelled, ← tells.progress.allReturned_iff] at returned
          simp [returned]
      obtain ⟨outcome, comes⟩ := exists_comesTo undecided seen
      exact absurd comes (rests.blind outcome undecided)
  have told : n.serversCancelled = true := tells.flags.serversCancelled_iff.2 (.inr decided)
  have gone : n.allReturned = true := by
    rw [tells.progress.allReturned_iff]
    intro i known
    by_contra still
    by_cases there : i ∈ started steps
    · exact rests.stopped told i (tells.progress.running there still)
    · exact rests.entered i (tells.progress.spawned known there)
  rcases rests.finished with finished | stuck
  · exact finished
  · simp [apply, decided, gone] at stuck

variable {before after : List Event}

/-- When the run returns, every server was started once and has returned. -/
theorem all_gone_of_finish (run : (create servers).run? (before ++ .finish :: after) = some n) :
    (started before).Perm (List.range servers) ∧ ∀ i < servers, i ∈ left before := by
  obtain ⟨mid, next, early, happens, -⟩ := Run.exists_step run
  have tells : Tells servers mid before := tells_of_run early
  cases step_of_apply happens with
  | finish ended all =>
    have gone := tells.progress.allReturned_iff.1 all
    refine ⟨?_, gone⟩
    refine (List.perm_ext_iff_of_nodup tells.progress.once List.nodup_range).2 fun i => ?_
    rw [List.mem_range]
    exact ⟨tells.progress.started_lt i, fun known => tells.progress.left_started i (gone i known)⟩

/-- A run gets somewhere only so often: it comes to rest unless it is given up. -/
theorem working_le_of_run (run : (create servers).run? events = some n) :
    (working events).length ≤ 3 * servers := by
  have tells : Tells servers n events := tells_of_run run
  have fit {l : List Nat} (once : l.Nodup) (known : ∀ i ∈ l, i ∈ started events) :
      l.length ≤ servers := by
    have within : l ⊆ List.range servers := fun i mem =>
      List.mem_range.2 (tells.progress.started_lt i (known i mem))
    simpa using (List.subperm_of_subset once within).length_le
  have starts := fit tells.progress.once fun i mem => mem
  have leaves := fit tells.progress.left_once tells.progress.left_started
  have reports := fit tells.reporting.once tells.reporting.started
  rw [tells.reporting.reporters, List.length_map] at reports
  rw [length_working]
  omega

/-- A node runs its servers as one unit: each is started once, and the run returns only when all have
returned.  The look that ends the wait is the last one.  It ends with the first report, if there was
one when the node looked at the reports, and otherwise because of a cancellation or because nobody is
left; a report that comes after the last look at the reports is lost.  When the run returns the servers
have been cancelled, and only the caller cancels the caller's side.  A report never waits for room, and
the run returns once there is a report, a cancellation or nobody left. -/
theorem servers_as_unit (run : (create servers).run? events = some n) :
    ((started events).Nodup ∧
      ∀ i < servers, i ∈ started events ∨ (n.apply (.enter i)).isSome = true) ∧
    (∀ before after, events = before ++ .finish :: after →
      (started before).Perm (List.range servers) ∧ ∀ i < servers, i ∈ left before) ∧
    (∀ outcome, n.outcome = some outcome → ∃ before after, events = before ++ .look :: after ∧
      looks after = 0 ∧ Decides servers before outcome) ∧
    ((n.serversCancelled = true ↔ .cancel ∈ events ∨ n.outcome.isSome = true) ∧
      (n.finished = true → n.outcome.isSome = true) ∧
      (n.cancelled = true ↔ .cancel ∈ events)) ∧
    (∀ i ∈ started events, i ∉ left events → i ∉ (reported events).map Prod.fst →
      ∀ e, (n.apply (.report i e)).isSome = true) ∧
    ((n.finished = true ↔ .finish ∈ events) ∧
      (working events).length ≤ 3 * servers ∧
      (Rests n → (n.finished = true ↔
        reported events ≠ [] ∨ .cancel ∈ events ∨ ∀ i < servers, i ∈ left events))) := by
  have tells : Tells servers n events := tells_of_run run
  have ended (finished : n.finished = true) : ∀ i < servers, i ∈ left events := by
    obtain ⟨before, after, rfl⟩ := List.append_of_mem (tells.flags.finished.1 finished)
    obtain ⟨-, gone⟩ := all_gone_of_finish run
    intro i known
    rw [left, List.filterMap_append]
    exact List.mem_append_left _ (gone i known)
  refine ⟨⟨tells.progress.once, fun i known => ?_⟩, ?_, tells.decided,
    ⟨tells.flags.serversCancelled_iff, tells.flags.ended, tells.flags.cancelled⟩,
    fun i there still new e => ?_, tells.flags.finished, working_le_of_run run,
    fun rests => rests.finished_iff tells ended⟩
  · by_cases there : i ∈ started events
    · exact .inl there
    · right
      rw [apply, tells.progress.spawned known there]
      rfl
  · rintro before after rfl
    exact all_gone_of_finish run
  · rw [← tells.reporting.reporters] at new
    have running := tells.progress.running there still
    have room := exists_room tells.progress tells.reporting running new
    simp [apply, running, new, room]

/-- Both servers of a node report after the caller has cancelled it, one has returned by then, and
the first report is the error of the run. -/
def sampleNode : List Event :=
  [.enter 1, .enter 0, .cancel, .report 1 (.other "taken"), .leave 1, .report 0 (.other "late"),
    .look, .leave 0, .finish]

theorem sampleNode_unit :
    ∃ n, (create 2).run? sampleNode = some n ∧ n.outcome = some (.error (.other "taken")) ∧
      n.finished = true ∧ n.serversCancelled = true ∧
      (started sampleNode).Nodup ∧ ∀ i < 2, i ∈ left sampleNode := by
  obtain ⟨n, run⟩ : ∃ n, (create 2).run? sampleNode = some n := ⟨_, rfl⟩
  obtain ⟨⟨once, -⟩, finishes, -, ⟨told, -⟩, -, finished, -⟩ := servers_as_unit run
  obtain ⟨-, gone⟩ := finishes (sampleNode.take 8) [] rfl
  have outcome : n.outcome = some (.error (.other "taken")) := by
    cases run
    rfl
  refine ⟨n, run, outcome, finished.2 (by simp [sampleNode]), told.2 (by simp [sampleNode]), once,
    gone⟩

/-- The node looks at the reports; then the only server reports that it could not start and returns;
then the node looks for a cancellation and at the servers. -/
def sampleLost : List Event :=
  [.enter 0, .look, .report 0 (.configuration "no port"), .leave 0, .look, .look, .finish]

/-- The error was reported before the wait ended, and the run returns without it. -/
theorem sampleLost_lost :
    reported (sampleLost.take 5) = [(0, .configuration "no port")] ∧
      ((create 1).run? (sampleLost.take 5)).map (·.outcome) = some none ∧
      ∃ n, (create 1).run? sampleLost = some n ∧ n.outcome = some (.ok ()) ∧ n.finished = true :=
  ⟨rfl, rfl, _, rfl, rfl, rfl⟩

end Node

end JobNode
