import JobNode.Proofs.Queue.Accounting
import JobNode.Queue.Stopping

/-!
# The accounts of a pool that is stopped

Whoever sends, starts and stops, and whatever becomes of the bodies, a pool counts the submissions
that its workers execute, and only workers that were started before the first stop ever execute one.
The call that takes the workers over, which is the first one unless another overtakes it, returns when
all of them are gone.  Then an outcome was handed to the backend for everything that they took, and
nothing is taken any more.

* `SharedPool.step_of_apply`: what one step can do.
* `SharedPool.Staffed.step`: which workers can have something in hands.
* `SharedPool.Claimed.step`: who waits for the workers, and who does not.
* `Pool.Deserted.step`: what can happen without workers.
* `SharedPool.workers_accounted`: every run.
-/

namespace JobNode

open Run

variable {τ : Type}

/-- The worker has nothing in hands and is not about to take anything. -/
def Worker.isIdle : Worker τ → Bool
  | parked | draining | exited => true
  | looking | holding _ | counted _ | running _ _ _ | finished _ _ | storing _ _ => false

theorem Worker.executing?_of_isIdle {x : Worker τ} (idle : x.isIdle = true) :
    x.executing? = none := by
  cases x <;> first | rfl | cases idle

namespace Pool

variable {p next : Pool τ} {e : Event} {w : Nat} {a b : Worker τ} {l : List (Note τ)}

/-- A worker with nothing in hands takes nothing once it was told to stop. -/
theorem Moves.idle (moves : Moves p.registry w e a b l) (happens : p.apply e = some next)
    (cancelled : p.cancelled = true) (idle : a.isIdle = true) : b.isIdle = true := by
  cases moves with
  | wake | stop | exit => rfl
  | look =>
    simp only [apply, cancelled] at happens
    split at happens
    next stop => cases stop
    · cases happens
  | _ => cases idle

/-! ## Pools without workers -/

/-- All workers are gone, and no others can be started. -/
structure Deserted (p : Pool τ) : Prop where
  closed : p.closed = true
  exited : p.allExited = true

theorem Deserted.eq_exited (deserted : p.Deserted) {x : Worker τ} (mem : x ∈ p.workers) :
    x = .exited := by
  have gone := List.all_eq_true.1 deserted.exited x mem
  cases x <;> first | rfl | cases gone

theorem Deserted.held (deserted : p.Deserted) (w : Nat) : p.held w = [] := by
  rw [Pool.held]
  cases at_ : p.workers[w]? with
  | none => rfl
  | some x =>
    rw [deserted.eq_exited (List.mem_of_getElem? at_)]
    rfl

theorem Deserted.executing (deserted : p.Deserted) : p.executing = [] := by
  refine List.filterMap_eq_nil_iff.2 fun x mem => ?_
  rw [deserted.eq_exited mem]
  rfl

/-- Without workers, the workers stay as they are and nothing is taken. -/
theorem Deserted.step (deserted : p.Deserted) (happens : p.apply e = some next) :
    next.Deserted ∧ next.workers = p.workers ∧ (p.deeds e).takings = [] := by
  have closed : next.closed = true := by
    rw [(flags_of_apply happens).2, deserted.closed]
    rfl
  have unmoved (workers : next.workers = p.workers) (none : (p.deeds e).takings = []) :
      next.Deserted ∧ next.workers = p.workers ∧ (p.deeds e).takings = [] := by
    refine ⟨⟨closed, ?_⟩, workers, none⟩
    rw [allExited, workers]
    exact deserted.exited
  cases own : e.worker? with
  | none =>
    cases e with
    | send | cancel | close | forget | cease =>
      cases happens
      exact unmoved rfl rfl
    | start n =>
      simp only [apply, deserted.closed, if_true] at happens
      cases happens
      exact unmoved rfl rfl
    | _ => cases own
  | some w =>
    obtain ⟨a, b, l, at_, -, -, -, moves⟩ := moves_of_apply happens own
    rw [deserted.eq_exited (List.mem_of_getElem? at_)] at moves
    cases moves

end Pool

namespace SharedPool

variable {s next last : SharedPool τ} {e : Event} {steps : List Event}

/-! ## Steps -/

/-- The step that the pool itself takes, if it takes one. -/
def inner? (s : SharedPool τ) : Event → Option Pool.Event
  | .start => some (.start s.size)
  | .stop => some .cancel
  | .claim _ => if s.pool.closed then none else some .close
  | .leave _ => none
  | .pool e => some e

/-- What a step does to submissions. -/
def deeds (s : SharedPool τ) (e : Event) : Deeds := ((s.inner? e).map s.pool.deeds).getD []

/-- The pool after steps; none if one of them cannot happen. -/
def run? (s : SharedPool τ) (events : List Event) : Option (SharedPool τ) :=
  Run.last? apply s events

/-- What steps do to submissions. -/
def history (s : SharedPool τ) (events : List Event) : Deeds := Run.history apply deeds s events

/-- What a step does. -/
inductive Step (s : SharedPool τ) : Event → SharedPool τ → Prop where
  | started {pool : Pool τ} (moves : s.pool.apply (.start s.size) = some pool) :
    Step s .start { s with pool }
  | called {pool : Pool τ} (moves : s.pool.apply .cancel = some pool) :
    Step s .stop { s with pool, stops := s.stops ++ [.called] }
  | claimed {i : Nat} {pool : Pool τ} (at_ : s.stops[i]? = some .called)
    (unclaimed : s.pool.closed = false) (moves : s.pool.apply .close = some pool) :
    Step s (.claim i) { s with pool, stops := s.stops.set i .joining }
  | late {i : Nat} (at_ : s.stops[i]? = some .called) (claimed : s.pool.closed = true) :
    Step s (.claim i) { s with stops := s.stops.set i .returned }
  | left {i : Nat} (at_ : s.stops[i]? = some .joining) (gone : s.pool.allExited = true) :
    Step s (.leave i) { s with stops := s.stops.set i .returned }
  | went {e : Pool.Event} {pool : Pool τ} (unstarted : ∀ n, e ≠ .start n)
    (uncancelled : e ≠ .cancel) (unclosed : e ≠ .close) (moves : s.pool.apply e = some pool) :
    Step s (.pool e) { s with pool }

theorem step_of_apply (happens : s.apply e = some next) : Step s e next := by
  cases e with
  | start =>
    simp only [apply] at happens
    obtain ⟨pool, moves, rfl⟩ := Option.map_eq_some_iff.1 happens
    exact .started moves
  | stop =>
    simp only [apply] at happens
    obtain ⟨pool, moves, rfl⟩ := Option.map_eq_some_iff.1 happens
    exact .called moves
  | claim i =>
    simp only [apply] at happens
    split at happens
    next at_ =>
      split at happens
      next claimed =>
        cases happens
        exact .late at_ claimed
      next unclaimed =>
        obtain ⟨pool, moves, rfl⟩ := Option.map_eq_some_iff.1 happens
        exact .claimed at_ (Bool.eq_false_iff.2 unclaimed) moves
    · cases happens
  | leave i =>
    simp only [apply] at happens
    split at happens
    next at_ =>
      split at happens
      next gone =>
        cases happens
        exact .left at_ gone
      · cases happens
    · cases happens
  | pool e =>
    simp only [apply] at happens
    split at happens
    · cases happens
    · cases happens
    · cases happens
    next e unstarted uncancelled unclosed =>
      obtain ⟨pool, moves, rfl⟩ := Option.map_eq_some_iff.1 happens
      exact .went unstarted uncancelled unclosed moves

/-- The pool itself takes a step, or stays as it is. -/
theorem inner_of_apply (happens : s.apply e = some next) :
    match s.inner? e with
    | some e => s.pool.apply e = some next.pool
    | none => next.pool = s.pool := by
  cases step_of_apply happens with
  | started moves | called moves | went _ _ _ moves => exact moves
  | claimed _ unclaimed moves =>
    simp only [inner?, unclaimed, Bool.false_eq_true, if_false]
    exact moves
  | late _ claimed => simp only [inner?, claimed, if_true]
  | left => rfl

/-! ## Hands -/

theorem Faithful.step {h : Deeds} (before : s.pool.Faithful h) (happens : s.apply e = some next) :
    next.pool.Faithful (h ++ s.deeds e) := by
  have moves := inner_of_apply happens
  rw [deeds]
  cases own : s.inner? e with
  | none =>
    rw [own] at moves
    rw [moves]
    simpa using before
  | some inner =>
    rw [own] at moves
    exact before.step moves

theorem faithful_of_run {size : Nat} {registry : Dict τ} {events : List Event}
    (run : (create size registry).run? events = some s) :
    s.pool.Faithful ((create size registry).history events) :=
  @Run.history_induction _ _ _ apply deeds (fun (s : SharedPool τ) h => s.pool.Faithful h)
    Faithful.step events _ s (Pool.faithful_empty registry) run

/-! ## Staff -/

/-- A call to start comes in. -/
def Event.isStart : Event → Bool
  | start => true
  | stop | claim _ | leave _ | pool _ => false

/-- A call to stop comes in. -/
def Event.isStop : Event → Bool
  | stop => true
  | start | claim _ | leave _ | pool _ => false

/-- Number of starts before the first stop. -/
def startsBefore (steps : List Event) : Nat :=
  (steps.takeWhile fun e => !e.isStop).countP Event.isStart

theorem startsBefore_concat (steps : List Event) (e : Event) :
    startsBefore (steps ++ [e]) =
      startsBefore steps + if steps.any Event.isStop then 0 else e.isStart.toNat := by
  induction steps with
  | nil => cases e <;> rfl
  | cons first rest ih =>
    rw [startsBefore, startsBefore] at ih ⊢
    cases stop : first.isStop with
    | true => simp [stop]
    | false => simp [stop, List.countP_cons, ih]; omega

/-- The pool counts right, and only workers that were started before the first stop have anything in
hands. -/
structure Staffed (size : Nat) (s : SharedPool τ) (steps : List Event) : Prop where
  sized : s.size = size
  counted : s.pool.Counted
  cancelled : s.pool.cancelled = steps.any Event.isStop
  surplus : ∀ (w : Nat) (x : Worker τ), s.pool.workers[w]? = some x →
    startsBefore steps * size ≤ w → s.pool.cancelled = true ∧ x.isIdle = true

variable {size : Nat}

theorem Staffed.workers_le (staffed : Staffed size s steps) (going : s.pool.cancelled = false) :
    s.pool.workers.length ≤ startsBefore steps * size := by
  by_contra more
  have at_ := List.getElem?_eq_getElem (Nat.lt_of_not_le more)
  have stopped := (staffed.surplus _ _ at_ (Nat.le_refl _)).1
  rw [going] at stopped
  cases stopped

theorem Staffed.active_le (staffed : Staffed size s steps) :
    s.pool.active ≤ startsBefore steps * size := by
  have late :
      (s.pool.workers.drop (startsBefore steps * size)).filterMap Worker.executing? = [] := by
    refine List.filterMap_eq_nil_iff.2 fun x mem => ?_
    obtain ⟨i, at_⟩ := List.getElem?_of_mem mem
    rw [List.getElem?_drop] at at_
    exact Worker.executing?_of_isIdle (staffed.surplus _ x at_ (Nat.le_add_right _ _)).2
  have split := List.take_append_drop (startsBefore steps * size) s.pool.workers
  rw [staffed.counted, Pool.executing, ← split, List.filterMap_append, late, List.append_nil]
  exact Nat.le_trans (List.length_filterMap_le _ _) (List.length_take_le _ _)

theorem staffed_create (size : Nat) (registry : Dict τ) :
    Staffed size (create size registry) [] where
  sized := rfl
  counted := Pool.counted_empty registry
  cancelled := rfl
  surplus _ _ at_ := nomatch at_

/-- A step that leaves the workers as they are and starts none. -/
theorem Staffed.unmoved (before : Staffed size s steps) (same : next.size = s.size)
    (counted : next.pool.Counted) (workers : next.pool.workers = s.pool.workers)
    (cancelled : next.pool.cancelled = (s.pool.cancelled || e.isStop)) :
    Staffed size next (steps ++ [e]) where
  sized := same.trans before.sized
  counted := counted
  cancelled := by simp [cancelled, before.cancelled]
  surplus w x at_ late := by
    rw [workers] at at_
    rw [startsBefore_concat, Nat.add_mul] at late
    obtain ⟨stopped, idle⟩ := before.surplus w x at_ (Nat.le_trans (Nat.le_add_right _ _) late)
    exact ⟨by rw [cancelled, stopped]; rfl, idle⟩

theorem Staffed.start {pool : Pool τ} (before : Staffed size s steps)
    (moves : s.pool.apply (.start s.size) = some pool) :
    Staffed size { s with pool } (steps ++ [.start]) := by
  have counted := before.counted.step moves
  have cancelled : pool.cancelled = s.pool.cancelled := by
    simpa using (Pool.flags_of_apply moves).1
  simp only [Pool.apply, Option.some.injEq] at moves
  split at moves
  · subst moves
    exact before.unmoved rfl counted rfl (by simp [Event.isStop])
  · refine ⟨before.sized, counted, by simp [cancelled, before.cancelled, Event.isStop], ?_⟩
    intro w x at_ late
    rw [startsBefore_concat, ← before.cancelled] at late
    subst moves
    have bound := (List.getElem?_eq_some_iff.1 at_).1
    rw [List.length_append, List.length_replicate, before.sized] at bound
    cases going : s.pool.cancelled with
    | false =>
      -- the new workers are among those that may have something in hands
      have few := before.workers_le going
      simp only [going, Event.isStart, Bool.toNat_true, Nat.add_mul, Nat.one_mul,
        Bool.false_eq_true, if_false] at late
      omega
    | true =>
      refine ⟨rfl, ?_⟩
      rw [going, if_pos rfl, Nat.add_zero] at late
      rcases Nat.lt_or_ge w s.pool.workers.length with old | new
      · rw [List.getElem?_append_left old] at at_
        exact (before.surplus w x at_ late).2
      · rw [List.getElem?_append_right new] at at_
        rw [List.eq_of_mem_replicate (List.mem_of_getElem? at_)]
        rfl

theorem Staffed.work {inner : Pool.Event} {pool : Pool τ} {v : Nat} (before : Staffed size s steps)
    (own : inner.worker? = some v) (moves : s.pool.apply inner = some pool) :
    Staffed size { s with pool } (steps ++ [.pool inner]) := by
  have counted := before.counted.step moves
  have cancelled : pool.cancelled = s.pool.cancelled := by
    rw [(Pool.flags_of_apply moves).1]
    cases inner <;> first | exact Bool.or_false _ | cases own
  obtain ⟨a, b, l, was, workers, -, -, turn⟩ := Pool.moves_of_apply moves own
  have surplus (w : Nat) (x : Worker τ) (at_ : pool.workers[w]? = some x)
      (late : startsBefore steps * size ≤ w) : s.pool.cancelled = true ∧ x.isIdle = true := by
    rw [workers] at at_
    by_cases same : v = w
    · subst same
      obtain ⟨stopped, idle⟩ := before.surplus v a was late
      rw [List.getElem?_set_self (List.getElem?_eq_some_iff.1 was).1] at at_
      cases at_
      exact ⟨stopped, turn.idle moves stopped idle⟩
    · rw [List.getElem?_set_ne same] at at_
      exact before.surplus w x at_ late
  refine ⟨before.sized, counted, by simp [cancelled, before.cancelled, Event.isStop], ?_⟩
  intro w x at_ late
  rw [startsBefore_concat, Nat.add_mul] at late
  obtain ⟨stopped, idle⟩ := surplus w x at_ (Nat.le_trans (Nat.le_add_right _ _) late)
  exact ⟨cancelled.trans stopped, idle⟩

theorem Staffed.step (before : Staffed size s steps) (happens : s.apply e = some next) :
    Staffed size next (steps ++ [e]) := by
  cases step_of_apply happens with
  | started moves => exact before.start moves
  | called moves =>
    have counted := before.counted.step moves
    cases moves
    exact before.unmoved rfl counted rfl (by simp [Event.isStop])
  | claimed _ _ moves =>
    have counted := before.counted.step moves
    cases moves
    exact before.unmoved rfl counted rfl (by simp [Event.isStop])
  | late | left => exact before.unmoved rfl before.counted rfl (by simp [Event.isStop])
  | @went inner pool unstarted uncancelled unclosed moves =>
    have counted := before.counted.step moves
    cases own : inner.worker? with
    | some v => exact before.work own moves
    | none =>
      cases inner with
      | send | forget | cease =>
        cases moves
        exact before.unmoved rfl counted rfl (by simp [Event.isStop])
      | start n => exact absurd rfl (unstarted n)
      | cancel => exact absurd rfl uncancelled
      | close => exact absurd rfl unclosed
      | _ => cases own

theorem staffed_of_run {registry : Dict τ} {events : List Event}
    (run : (create size registry).run? events = some s) : Staffed size s events :=
  Run.events_induction (Staffed size) Staffed.step (staffed_create size registry) run

/-! ## Calls that stop -/

/-- The call that takes the workers over, if one has done so. -/
def first? (steps : List Event) : Option Nat :=
  steps.findSome? fun
    | .claim i => some i
    | _ => none

/-- The first call to take the workers over is the one that waits for them. -/
structure Claimed (s : SharedPool τ) (steps : List Event) : Prop where
  closed : s.pool.closed = (first? steps).isSome
  waits : ∀ i, first? steps = some i →
    s.stops[i]? = some .joining ∨ s.stops[i]? = some .returned ∧ s.pool.allExited = true
  joining : ∀ i, s.stops[i]? = some .joining → first? steps = some i
  length : s.stops.length = steps.countP Event.isStop

theorem claimed_create (size : Nat) (registry : Dict τ) :
    Claimed (create size registry) [] where
  closed := rfl
  waits _ first := nomatch first
  joining _ at_ := nomatch at_
  length := rfl

theorem first?_concat (steps : List Event) (e : Event) :
    first? (steps ++ [e]) = (first? steps).or (first? [e]) := List.findSome?_append

/-- A step of the pool that neither closes it nor brings a worker back. -/
theorem Claimed.quiet {pool : Pool τ} (before : Claimed s steps) (none : first? [e] = none)
    (other : e.isStop = false)
    (closed : pool.closed = s.pool.closed)
    (gone : s.pool.Deserted → pool.allExited = true) :
    Claimed { s with pool } (steps ++ [e]) := by
  have same : first? (steps ++ [e]) = first? steps := by
    rw [first?_concat, none, Option.or_none]
  refine ⟨?_, fun i first => ?_, fun i at_ => ?_, ?_⟩
  · rw [same, ← before.closed]
    exact closed
  · rw [same] at first
    refine (before.waits i first).imp_right fun ⟨returned, exited⟩ => ⟨returned, gone ⟨?_, exited⟩⟩
    rw [before.closed, first]
    rfl
  · rw [same]
    exact before.joining i at_
  · simp [before.length, other]

/-- A call returns that has nothing to wait for. -/
theorem Claimed.returned {i : Nat} {call : StopCall} (before : Claimed s steps)
    (same : first? (steps ++ [e]) = first? steps) (other : e.isStop = false)
    (at_ : s.stops[i]? = some call)
    (free : first? steps = some i → s.pool.allExited = true) :
    Claimed { s with stops := s.stops.set i .returned } (steps ++ [e]) := by
  have inRange := (List.getElem?_eq_some_iff.1 at_).1
  refine ⟨?_, fun j first => ?_, fun j joins => ?_, ?_⟩
  · rw [same]
    exact before.closed
  · rw [same] at first
    by_cases own : i = j
    · subst own
      exact .inr ⟨List.getElem?_set_self inRange, free first⟩
    · simp only [List.getElem?_set_ne own]
      exact before.waits j first
  · rw [same]
    by_cases own : i = j
    · subst own
      simp [List.getElem?_set_self inRange] at joins
    · simp only [List.getElem?_set_ne own] at joins
      exact before.joining j joins
  · simp [before.length, other]

/-- A call that comes in has taken nothing over. -/
theorem Claimed.call {pool : Pool τ} (before : Claimed s steps)
    (moves : s.pool.apply .cancel = some pool) :
    Claimed { s with pool, stops := s.stops ++ [.called] } (steps ++ [.stop]) := by
  cases moves
  have same : first? (steps ++ [.stop]) = first? steps := by
    rw [first?_concat]
    exact Option.or_none
  refine ⟨?_, fun i first => ?_, fun i joins => ?_, ?_⟩
  · rw [same]
    exact before.closed
  · rw [same] at first
    have waits := before.waits i first
    have inRange : i < s.stops.length := by
      rcases waits with at_ | ⟨at_, -⟩ <;> exact (List.getElem?_eq_some_iff.1 at_).1
    rw [List.getElem?_append_left inRange]
    exact waits
  · rw [same]
    rcases Nat.lt_or_ge i s.stops.length with old | new
    · rw [List.getElem?_append_left old] at joins
      exact before.joining i joins
    · rw [List.getElem?_append_right new] at joins
      cases List.mem_singleton.1 (List.mem_of_getElem? joins)
  · simp [before.length, Event.isStop]

/-- The workers are taken over once. -/
theorem Claimed.claim {i : Nat} {pool : Pool τ} (before : Claimed s steps)
    (at_ : s.stops[i]? = some .called) (unclaimed : s.pool.closed = false)
    (moves : s.pool.apply .close = some pool) :
    Claimed { s with pool, stops := s.stops.set i .joining } (steps ++ [.claim i]) := by
  cases moves
  have inRange := (List.getElem?_eq_some_iff.1 at_).1
  have nobody : first? steps = none := by
    rw [← Option.isNone_iff_eq_none, ← Option.isSome_eq_false_iff, ← before.closed, unclaimed]
  have now : first? (steps ++ [.claim i]) = some i := by
    rw [first?_concat, nobody]
    rfl
  refine ⟨?_, fun j first => ?_, fun j joins => ?_, ?_⟩
  · rw [now]
    rfl
  · rw [now] at first
    cases first
    exact .inl (List.getElem?_set_self inRange)
  · by_cases own : i = j
    · rw [now, own]
    · rw [List.getElem?_set_ne own] at joins
      cases nobody.symm.trans (before.joining j joins)
  · simp [before.length, Event.isStop]

theorem Claimed.step (before : Claimed s steps) (happens : s.apply e = some next) :
    Claimed next (steps ++ [e]) := by
  cases step_of_apply happens with
  | started moves =>
    refine before.quiet rfl rfl ?_ fun deserted => (deserted.step moves).1.exited
    simpa using (Pool.flags_of_apply moves).2
  | @went inner pool unstarted uncancelled unclosed moves =>
    refine before.quiet rfl rfl ?_ fun deserted => (deserted.step moves).1.exited
    rw [(Pool.flags_of_apply moves).2]
    cases inner <;> first | exact Bool.or_false _ | exact absurd rfl unclosed
  | called moves => exact before.call moves
  | claimed at_ unclaimed moves => exact before.claim at_ unclaimed moves
  | @late i at_ claimed =>
    rw [before.closed] at claimed
    obtain ⟨first, here⟩ := Option.isSome_iff_exists.1 claimed
    have same : first? (steps ++ [.claim i]) = first? steps := by
      rw [first?_concat, here]
      rfl
    refine before.returned same rfl at_ fun own => ?_
    -- the one who has the workers is past taking them over
    rcases before.waits i own with joins | ⟨returned, -⟩
    · cases at_.symm.trans joins
    · cases at_.symm.trans returned
  | left at_ gone =>
    refine before.returned ?_ rfl at_ fun _ => gone
    rw [first?_concat]
    exact Option.or_none

theorem claimed_of_run {registry : Dict τ} {events : List Event}
    (run : (create size registry).run? events = some s) : Claimed s events :=
  Run.events_induction Claimed Claimed.step (claimed_create size registry) run

/-- A call that is the only one so far takes the workers over. -/
theorem first?_of_run {registry : Dict τ} {before after : List Event} {i : Nat}
    (run : (create size registry).run? (before ++ .claim i :: after) = some s)
    (alone : before.countP Event.isStop = 1) :
    first? (before ++ .claim i :: after) = some 0 := by
  obtain ⟨mid, next, early, happens, -⟩ := Run.exists_step run
  have claimed : Claimed mid before := claimed_of_run early
  have called : mid.stops[i]? = some .called := by
    cases step_of_apply happens with
    | claimed at_ | late at_ => exact at_
  have only {j : Nat} {call : StopCall} (at_ : mid.stops[j]? = some call) : j = 0 := by
    have inRange := (List.getElem?_eq_some_iff.1 at_).1
    rw [claimed.length, alone] at inRange
    omega
  obtain rfl := only called
  have nobody : first? before = none := by
    refine Option.eq_none_iff_forall_ne_some.2 fun j first => ?_
    -- whoever has the workers is past being called
    rcases claimed.waits j first with at_ | ⟨at_, -⟩ <;> cases only at_ <;>
      cases called.symm.trans at_
  have split : first? (before ++ .claim 0 :: after) =
      (first? before).or (first? (.claim 0 :: after)) := List.findSome?_append
  rw [split, nobody]
  rfl

/-! ## Without workers -/

/-- Without workers, whatever happens later leaves the workers as they are, and nothing is taken. -/
theorem deserted_run {later : List Event} (deserted : s.pool.Deserted)
    (run : s.run? later = some last) :
    last.pool.Deserted ∧ last.pool.workers = s.pool.workers ∧ (s.history later).takings = [] := by
  have step {mid next : SharedPool τ} {e : Event} {h : Deeds}
      (before : mid.pool.Deserted ∧ mid.pool.workers = s.pool.workers ∧ h.takings = [])
      (happens : mid.apply e = some next) :
      next.pool.Deserted ∧ next.pool.workers = s.pool.workers ∧
        Deeds.takings (h ++ mid.deeds e) = [] := by
    obtain ⟨deserted, workers, untaken⟩ := before
    have moves := inner_of_apply happens
    rw [deeds, Deeds.takings_append, untaken, List.nil_append]
    cases own : mid.inner? e with
    | none =>
      rw [own] at moves
      rw [moves]
      exact ⟨deserted, workers, rfl⟩
    | some inner =>
      rw [own] at moves
      obtain ⟨still, same, none⟩ := deserted.step moves
      exact ⟨still, same.trans workers, none⟩
  exact @Run.history_induction _ _ _ apply deeds
    (fun last (h : Deeds) =>
      last.pool.Deserted ∧ last.pool.workers = s.pool.workers ∧ h.takings = [])
    step later s last ⟨deserted, rfl, rfl⟩ run

/-- **Workers account for what they execute and for what they take.**  However sends, starts, stops
and workers alternate and whatever becomes of the bodies, the number of active workers is that of
the submissions they execute, a worker that ceases to be active was counted as such, and there are
never more than the starts before the first stop have brought.  The call to stop that takes the workers
over is the first to come in, unless another one has come in by then.  When it has returned, no worker
is active or even left, whatever happens later starts none and takes nothing, and an outcome was handed
to the backend for all that was taken.  The backend has it until a later outcome for the same identifier
takes its place or the handle is dropped, unless it did not keep it. -/
theorem workers_accounted (size : Nat) (registry : Dict τ) (events : List Event) (s : SharedPool τ)
    (run : (create size registry).run? events = some s) :
    let h := (create size registry).history events
    s.pool.active = s.pool.executing.length ∧
    (∀ w next, s.apply (.pool (.uncount w)) = some next →
      next.pool.active + 1 = s.pool.active) ∧
    s.pool.active ≤ startsBefore events * size ∧
    (∀ before i after, events = before ++ .claim i :: after → before.countP Event.isStop = 1 →
      first? events = some 0) ∧
    ∀ i, first? events = some i → s.stops[i]? = some .returned →
      s.pool.active = 0 ∧
      (∀ x ∈ s.pool.workers, x = .exited) ∧
      (∀ later last, s.run? later = some last → last.pool.active = 0 ∧
        last.pool.workers = s.pool.workers ∧ (s.history later).takings = []) ∧
      ∀ w, ∀ x ∈ h.takenBy (.worker w), .lost w x ∈ h ∨
        ∃ outcome, (.worker w, x, outcome) ∈ h.settlements ∧
          (x.id ∉ h.dropped → ∃ latest, (h.outcomesOf x.id).getLast? = some latest ∧
            s.pool.backend.outcome? x.id = some latest) ∧
          (Always Deeds.Proper h → s.pool.backend.slots.find? x.id =
            if x.id ∈ h.dropped then none else some (.done outcome)) := by
  intro h
  have staffed : Staffed size s events := staffed_of_run run
  have claimed : Claimed s events := claimed_of_run run
  refine ⟨staffed.counted, fun w next happens => ?_, staffed.active_le, ?_,
    fun i first returned => ?_⟩
  · exact staffed.counted.uncount (inner_of_apply happens)
  · rintro before i after rfl alone
    exact first?_of_run run alone
  · have deserted : s.pool.Deserted := by
      refine ⟨by rw [claimed.closed, first]; rfl, ?_⟩
      rcases claimed.waits i first with joins | ⟨-, exited⟩
      · cases joins.symm.trans returned
      · exact exited
    have idle {last : SharedPool τ} (counted : last.pool.Counted) (gone : last.pool.Deserted) :
        last.pool.active = 0 := by
      rw [counted, gone.executing]
      rfl
    refine ⟨idle staffed.counted deserted, fun x mem => deserted.eq_exited mem,
      fun later last goes => ?_, fun w x taken => ?_⟩
    · obtain ⟨still, workers, untaken⟩ := deserted_run deserted goes
      have whole : (create size registry).run? (events ++ later) = some last :=
        (Run.last?_append run later).trans goes
      exact ⟨idle (staffed_of_run whole).counted still, workers, untaken⟩
    · exact (faithful_of_run run).outcome (deserted.held w) taken

/-- Two starts of two workers.  One worker meets an unknown task and then a body that panics,
another one a body that goes on for too long, while two calls to stop overlap; a third start comes
too late, and one submission is left. -/
def sampleStop : List Event :=
  [.start, .pool (.send (Pool.sampleOf 1 "pong" .last)),
    .pool (.send (Pool.sampleOf 2 "ping" .last)), .pool (.send (Pool.sampleOf 3 "ping" .last)),
    .pool (.send (Pool.sampleOf 4 "ping" .last)), .start,
    .pool (.wake 0), .pool (.look 0), .pool (.take 0), .pool (.count 0), .pool (.begin 0 .epoch),
    .pool (.uncount 0), .pool (.store 0), .pool (.forget ⟨.ofNat 1⟩), .pool (.look 0),
    .pool (.take 0), .pool (.count 0), .pool (.begin 0 .epoch), .pool (.wake 3), .pool (.look 3),
    .stop, .claim 0, .stop, .pool (.take 3), .claim 1, .pool (.count 3), .pool (.begin 3 .epoch),
    .pool (.finish 0 .panicked), .pool (.uncount 0), .pool (.store 0), .pool (.rest 0),
    .pool (.exit 0), .pool (.exit 1), .pool (.exit 2), .pool (.overrun 3), .pool (.uncount 3),
    .pool (.store 3), .pool (.rest 3), .pool (.exit 3), .leave 0, .start]

theorem sampleStop_accounted :
    let start : SharedPool Unit := create 2 (.ofList [("ping", ())])
    (∃ s, start.run? (sampleStop.take 27) = some s ∧ s.pool.active = 2 ∧
      s.pool.executing.length = 2) ∧
    ∃ s, start.run? sampleStop = some s ∧ s.stops = [.returned, .returned] ∧
      s.pool.active = 0 ∧ (∀ x ∈ s.pool.workers, x = .exited) ∧
      s.pool.backend.slots.find? ⟨.ofNat 1⟩ = none ∧
      ∃ outcome, s.pool.backend.slots.find? ⟨.ofNat 2⟩ = some (.done outcome) := by
  intro start
  have busy : (start.run? (sampleStop.take 27)).map (·.pool.active) = some 2 := by decide +kernel
  have stopped : (start.run? sampleStop).map (·.stops) = some [.returned, .returned] := by
    decide +kernel
  obtain ⟨mid, early, active⟩ := Option.map_eq_some_iff.1 busy
  obtain ⟨s, run, stops⟩ := Option.map_eq_some_iff.1 stopped
  have proper : Always Deeds.Proper (start.history sampleStop) := by decide +kernel
  have gone : (⟨.ofNat 1⟩ : TaskId) ∈ (start.history sampleStop).dropped := by decide +kernel
  have alive : (⟨.ofNat 2⟩ : TaskId) ∉ (start.history sampleStop).dropped := by decide +kernel
  have taken : ((start.history sampleStop).takenBy (.worker 0)).map (·.id) =
      [⟨.ofNat 1⟩, ⟨.ofNat 2⟩] := by decide +kernel
  have first : ⟨.ofNat 1⟩ ∈ ((start.history sampleStop).takenBy (.worker 0)).map (·.id) := by
    simp [taken]
  have second : ⟨.ofNat 2⟩ ∈ ((start.history sampleStop).takenBy (.worker 0)).map (·.id) := by
    simp [taken]
  obtain ⟨x, memX, ofX⟩ := List.mem_map.1 first
  obtain ⟨y, memY, ofY⟩ := List.mem_map.1 second
  have kept : ((start.history sampleStop).all fun
      | .lost _ _ => false
      | _ => true) = true := by decide +kernel
  have none (x : Submission) : .lost 0 x ∉ start.history sampleStop := by
    intro mem
    cases List.all_eq_true.1 kept _ mem
  obtain ⟨-, -, -, -, ended⟩ := workers_accounted 2 _ sampleStop s run
  obtain ⟨idle, exited, -, recorded⟩ := ended 0 rfl (by rw [stops]; rfl)
  obtain ⟨_, -, -, dropped⟩ := (recorded 0 x memX).resolve_left (none x)
  obtain ⟨outcome, -, -, stored⟩ := (recorded 0 y memY).resolve_left (none y)
  refine ⟨⟨mid, early, active, ?_⟩, s, run, stops, idle, exited, ?_, outcome, ?_⟩
  · rw [← (workers_accounted 2 _ _ mid early).1, active]
  · rw [← ofX, dropped proper, ofX, if_pos gone]
  · rw [← ofY, stored proper, ofY, if_neg alive]

/-- Two calls to stop come in while a worker executes a submission.  The second one takes the workers
over, so the first one has nothing to wait for; the outcome is lost. -/
def sampleOvertaken : List Event :=
  [.start, .pool (.send (Pool.sampleOf 1 "ping" .last)), .pool (.wake 0), .pool (.look 0),
    .pool (.take 0), .pool (.count 0), .pool (.begin 0 .epoch), .stop, .stop, .claim 1, .claim 0,
    .pool (.finish 0 (.returned .null)), .pool (.uncount 0), .pool (.lose 0), .pool (.rest 0),
    .pool (.exit 0), .leave 1]

/-- The first call has returned while a worker is active, and in the end the backend has no outcome for
what was taken. -/
theorem sampleOvertaken_early :
    let start : SharedPool Unit := create 1 (.ofList [("ping", ())])
    (∃ s, start.run? (sampleOvertaken.take 11) = some s ∧ s.stops = [.returned, .joining] ∧
      s.pool.active = 1 ∧ s.pool.executing.length = 1) ∧
    ∃ s, start.run? sampleOvertaken = some s ∧ s.stops = [.returned, .returned] ∧
      (start.history sampleOvertaken).takings.map (·.2.id) = [⟨.ofNat 1⟩] ∧
      (start.history sampleOvertaken).dropped = [] ∧
      s.pool.backend.outcome? ⟨.ofNat 1⟩ = none :=
  ⟨⟨_, rfl, rfl, rfl, rfl⟩, _, rfl, rfl, rfl, rfl, rfl⟩

end SharedPool

end JobNode
