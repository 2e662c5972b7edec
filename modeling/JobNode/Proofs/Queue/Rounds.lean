import JobNode.Proofs.Queue.Execution
import JobNode.Proofs.Queue.History

/-!
# What workers make of one submission after the other

All that a worker does consists of rounds: it takes a submission, reads the clock, starts the body if
there is one to start, tells it to end if it goes on for too long, and hands over the outcome, whatever
the body has done.  How the steps of the workers and the callers alternate makes no difference to a
round, and neither do the rounds before, whose bodies may go on beside it for a while.

* `Pool.Moves`, `Pool.moves_of_apply`: what a step of a worker can be.
* `Pool.InRounds`: what a worker has done consists of rounds, up to the one that it is in.
* `Pool.Goes`: steps of one worker, and what it does.
* `Pool.settled_in_window`: what comes of a submission, and of all that workers take.
-/

namespace JobNode

variable {τ : Type}

/-- The body that a worker runs, and its parameters. -/
def Worker.body? : Worker τ → Option (τ × Params)
  | running x task _ => some (task, x.params)
  | _ => none

namespace Pool

/-! ## Notes -/

/-- What an observer notes of a worker. -/
inductive Note (τ : Type) where
  | taken (x : Submission)
  /-- The worker reads the clock. -/
  | picked (now : Instant)
  /-- A body is started, with parameters. -/
  | started (task : τ) (params : Params)
  /-- The body with the parameters is told to end. -/
  | aborted (task : τ) (params : Params)
  /-- The outcome is handed to the backend, which keeps or loses it. -/
  | handed (x : Submission) (outcome : Outcome)

/-- What an observer notes of the workers. -/
structure Mark (τ : Type) where
  worker : Nat
  note : Note τ

/-- What is noted as a worker takes a submission up. -/
def opening (registry : Dict τ) (x : Submission) (now : Instant) : List (Note τ) :=
  .picked now :: ((x.started? registry now).map fun s => .started s.1 s.2).toList

/-- What is noted of a body that has been started, until the worker comes to an outcome. -/
def ending (registry : Dict τ) (behave : τ → Params → Submission.Behaviour) (x : Submission)
    (now : Instant) : List (Note τ) :=
  ((x.aborted? registry behave now).map fun s => .aborted s.1 s.2).toList

/-- What is noted until the worker comes to an outcome. -/
def course (registry : Dict τ) (behave : τ → Params → Submission.Behaviour) (x : Submission)
    (now : Instant) : List (Note τ) :=
  opening registry x now ++ ending registry behave x now

/-- What is noted of a submission from beginning to end. -/
def round (registry : Dict τ) (behave : τ → Params → Submission.Behaviour) (x : Submission)
    (now : Instant) : List (Note τ) :=
  .taken x :: course registry behave x now ++ [.handed x (x.execute registry behave now)]

/-- What is noted of a step. -/
def marks (p : Pool τ) : Event → List (Mark τ)
  | .take w => (p.pending.head?.map fun x => ⟨w, .taken x⟩).toList
  | .begin w now =>
    match (p.apply (.begin w now)).bind (·.workers[w]?) with
    | some after =>
      (.picked now :: (after.body?.map fun s => .started s.1 s.2).toList).map (.mk w)
    | none => []
  | .overrun w =>
    match p.workers[w]? with
    | some (.running x task _) => [⟨w, .aborted task x.params⟩]
    | _ => []
  | .store w | .lose w =>
    match p.workers[w]? with
    | some (.storing x outcome) => [⟨w, .handed x outcome⟩]
    | _ => []
  | _ => []

/-- What was noted of one worker. -/
def notes (w : Nat) (h : List (Mark τ)) : List (Note τ) :=
  h.filterMap fun mark => if mark.worker = w then some mark.note else none

/-- The pool after steps; none if one of them cannot happen. -/
def run? (p : Pool τ) (events : List Event) : Option (Pool τ) := Run.last? apply p events

/-- What is noted of the steps. -/
def history (p : Pool τ) (events : List Event) : List (Mark τ) := Run.history apply marks p events

variable {h k : List (Mark τ)} {w v : Nat}

@[simp]
theorem notes_append : notes w (h ++ k) = notes w h ++ notes w k := List.filterMap_append

theorem notes_self (l : List (Note τ)) : notes w (l.map (.mk w)) = l := by
  simp [notes, List.filterMap_map]

theorem notes_of_ne (ne : v ≠ w) (l : List (Note τ)) : notes w (l.map (.mk v)) = [] := by
  simp [notes, List.filterMap_map, ne]

/-! ## Steps -/

/-- What a step of a worker can be, and what is noted of it. -/
inductive Moves (registry : Dict τ) (w : Nat) : Event → Worker τ → Worker τ → List (Note τ) → Prop
  | wake : Moves registry w (.wake w) .parked .draining []
  | look : Moves registry w (.look w) .draining .looking []
  | stop : Moves registry w (.rest w) .draining .parked []
  | rest : Moves registry w (.rest w) .looking .parked []
  | exit : Moves registry w (.exit w) .parked .exited []
  | take (x : Submission) : Moves registry w (.take w) .looking (.holding x) [.taken x]
  | count (x : Submission) : Moves registry w (.count w) (.holding x) (.counted x) []
  | settle {x : Submission} {now : Instant} {outcome : Outcome}
    (start : x.start registry now = .settled outcome) :
    Moves registry w (.begin w now) (.counted x) (.finished x outcome) (opening registry x now)
  | run {x : Submission} {now : Instant} {task : τ} {limit : Duration}
    (start : x.start registry now = .run task limit) :
    Moves registry w (.begin w now) (.counted x) (.running x task limit) (opening registry x now)
  | finish (x : Submission) (task : τ) (limit : Duration) (last : BodyEnd) :
    Moves registry w (.finish w last) (.running x task limit) (.finished x (x.outcome last)) []
  | overrun (x : Submission) (task : τ) (limit : Duration) :
    Moves registry w (.overrun w) (.running x task limit) (.finished x x.expired)
      [.aborted task x.params]
  | uncount (x : Submission) (outcome : Outcome) :
    Moves registry w (.uncount w) (.finished x outcome) (.storing x outcome) []
  | store (x : Submission) (outcome : Outcome) :
    Moves registry w (.store w) (.storing x outcome) .draining [.handed x outcome]
  | lose (x : Submission) (outcome : Outcome) :
    Moves registry w (.lose w) (.storing x outcome) .draining [.handed x outcome]

variable {p q next : Pool τ} {e : Event}

/-- What is noted as a worker takes a submission up is the opening of its round. -/
theorem marks_begin {x : Submission} (at_ : p.workers[w]? = some (.counted x)) (now : Instant) :
    p.marks (.begin w now) = (opening p.registry x now).map (.mk w) := by
  have inRange := (List.getElem?_eq_some_iff.1 at_).1
  cases start : x.start p.registry now with
  | settled outcome =>
    simp only [marks, apply, at_, start, setWorker, Option.bind_some, List.getElem?_set_self inRange,
      Worker.body?, opening, Submission.started?]
  | run task limit =>
    simp only [marks, apply, at_, start, setWorker, Option.bind_some, List.getElem?_set_self inRange,
      Worker.body?, opening, Submission.started?]

/-- A step of a worker changes its own state and nothing of the other workers. -/
theorem moves_of_apply (happens : p.apply e = some next) (own : e.worker? = some w) :
    ∃ a b l, p.workers[w]? = some a ∧ next.workers = p.workers.set w b ∧
      next.registry = p.registry ∧ p.marks e = l.map (.mk w) ∧ Moves p.registry w e a b l := by
  cases step_of_apply happens with
  | send | start | refuse | cancel | close | forget | cease => cases own
  | wake was =>
    cases own
    exact ⟨_, _, _, was, rfl, rfl, rfl, .wake⟩
  | look was =>
    cases own
    exact ⟨_, _, _, was, rfl, rfl, rfl, .look⟩
  | stop was =>
    cases own
    exact ⟨_, _, _, was, rfl, rfl, rfl, .stop⟩
  | rest was =>
    cases own
    exact ⟨_, _, _, was, rfl, rfl, rfl, .rest⟩
  | exit was =>
    cases own
    exact ⟨_, _, _, was, rfl, rfl, rfl, .exit⟩
  | @take w x rest was pending =>
    cases own
    exact ⟨_, _, [.taken x], was, rfl, rfl, by simp [marks, pending], .take x⟩
  | @count w x was =>
    cases own
    exact ⟨_, _, _, was, rfl, rfl, rfl, .count x⟩
  | @settle w x now outcome was start =>
    cases own
    exact ⟨_, _, _, was, rfl, rfl, marks_begin was now, .settle start⟩
  | @run w x now task limit was start =>
    cases own
    exact ⟨_, _, _, was, rfl, rfl, marks_begin was now, .run start⟩
  | @finish w x task limit last was =>
    cases own
    exact ⟨_, _, _, was, rfl, rfl, rfl, .finish x task limit last⟩
  | @overrun w x task limit was =>
    cases own
    exact ⟨_, _, [.aborted task x.params], was, rfl, rfl, by simp [marks, was],
      .overrun x task limit⟩
  | @uncount w x outcome was =>
    cases own
    exact ⟨_, _, _, was, rfl, rfl, rfl, .uncount x outcome⟩
  | @store w x outcome was =>
    cases own
    exact ⟨_, _, [.handed x outcome], was, rfl, rfl, by simp [marks, was], .store x outcome⟩
  | @lose w x outcome was =>
    cases own
    exact ⟨_, _, [.handed x outcome], was, rfl, rfl, by simp [marks, was], .lose x outcome⟩

/-- Any other step leaves the workers as they are, and may start new ones. -/
theorem still_of_apply (happens : p.apply e = some next) (other : e.worker? = none) :
    next.registry = p.registry ∧ p.marks e = [] ∧
      ∃ count, next.workers = p.workers ++ List.replicate count .parked := by
  cases step_of_apply happens with
  | wake | look | stop | rest | exit | take | count | settle | run | finish | overrun | uncount
  | store | lose => cases other
  | send | refuse | cancel | close | forget | cease =>
    exact ⟨rfl, rfl, 0, (List.append_nil _).symm⟩
  | start n => exact ⟨rfl, rfl, n, rfl⟩

/-! ## Bodies -/

/-- What bodies do: that of the `n`-th submission that worker `w` takes up. -/
abbrev Bodies (τ : Type) := Nat → Nat → τ → Params → Submission.Behaviour

/-- An outcome is handed over. -/
def Note.isHanded : Note τ → Bool
  | handed _ _ => true
  | _ => false

/-- Number of the outcomes that a worker has handed over. -/
def done (w : Nat) (h : List (Mark τ)) : Nat := (notes w h).countP Note.isHanded

/-- The step accords with what bodies do: a body ends when and as it does, if that is in time, and is
cut off if it is not. -/
def Allows (bodies : Bodies τ) (p : Pool τ) (h : List (Mark τ)) : Event → Prop
  | .finish w last => ∀ x task limit, p.workers[w]? = some (.running x task limit) →
    ∃ time, bodies w (done w h) task x.params = some (time, last) ∧ time ≤ limit
  | .overrun w => ∀ x task limit, p.workers[w]? = some (.running x task limit) →
    ∀ time last, bodies w (done w h) task x.params = some (time, last) → ¬ time ≤ limit
  | _ => True

/-- All steps accord with what bodies do, after what was noted. -/
def Follows (bodies : Bodies τ) : Pool τ → List (Mark τ) → List Event → Prop
  | _, _, [] => True
  | p, h, e :: rest =>
    Allows bodies p h e ∧ ∀ next, p.apply e = some next → Follows bodies next (h ++ p.marks e) rest

theorem Follows.append {bodies : Bodies τ} {before after : List Event}
    (first : Follows bodies p h before) (run : p.run? before = some q)
    (later : Follows bodies q (h ++ p.history before) after) :
    Follows bodies p h (before ++ after) := by
  induction before generalizing p h with
  | nil =>
    cases run
    simpa [history, Run.history] using later
  | cons e rest ih =>
    refine ⟨first.1, fun next happens => ?_⟩
    rw [run?, Run.last?, happens] at run
    rw [history, Run.history, happens, ← List.append_assoc] at later
    exact ih (first.2 next happens) run later

/-! ## Rounds -/

variable {registry : Dict τ} {bodies : Bodies τ} {behave : Nat → τ → Params → Submission.Behaviour}
variable {a b : Worker τ} {l : List (Note τ)}

/-- Rounds, one after the other, each with the behaviour of its own body. -/
def rounds (registry : Dict τ) (behave : Nat → τ → Params → Submission.Behaviour)
    (taken : List (Submission × Instant)) : List (Note τ) :=
  (taken.mapIdx fun n r => round registry (behave n) r.1 r.2).flatten

theorem rounds_concat (taken : List (Submission × Instant)) (x : Submission) (now : Instant) :
    rounds registry behave (taken ++ [(x, now)]) =
      rounds registry behave taken ++ round registry (behave taken.length) x now := by
  simp [rounds, List.mapIdx_concat]

theorem countP_opening (registry : Dict τ) (x : Submission) (now : Instant) :
    (opening registry x now).countP Note.isHanded = 0 := by
  cases started : x.started? registry now <;> simp [opening, started, Note.isHanded]

theorem countP_ending (registry : Dict τ) (behave : τ → Params → Submission.Behaviour)
    (x : Submission) (now : Instant) : (ending registry behave x now).countP Note.isHanded = 0 := by
  cases aborted : x.aborted? registry behave now <;> simp [ending, aborted, Note.isHanded]

theorem countP_course (registry : Dict τ) (behave : τ → Params → Submission.Behaviour)
    (x : Submission) (now : Instant) : (course registry behave x now).countP Note.isHanded = 0 := by
  rw [course, List.countP_append, countP_opening, countP_ending]

/-- Nothing is told to end where no body was started. -/
theorem ending_of_settled {behave : τ → Params → Submission.Behaviour} {x : Submission}
    {now : Instant} {outcome : Outcome} (start : x.start registry now = .settled outcome) :
    ending registry behave x now = [] := by
  simp only [ending, Submission.aborted?, start, Option.map_none, Option.toList_none]

/-- A body that ends in time is not told to. -/
theorem ending_of_end {behave : τ → Params → Submission.Behaviour} {x : Submission} {now : Instant}
    {task : τ} {limit time : Duration} {last : BodyEnd}
    (start : x.start registry now = .run task limit)
    (behaves : behave task x.params = some (time, last)) (inTime : time ≤ limit) :
    ending registry behave x now = [] := by
  simp only [ending, Submission.aborted?, start, behaves, if_pos inTime, Option.map_none,
    Option.toList_none]

/-- A body that goes on for too long is told to end, and the submission has expired. -/
theorem ending_of_overrun {behave : τ → Params → Submission.Behaviour} {x : Submission}
    {now : Instant} {task : τ} {limit : Duration} (start : x.start registry now = .run task limit)
    (overruns : ∀ time last, behave task x.params = some (time, last) → ¬ time ≤ limit) :
    ending registry behave x now = [.aborted task x.params] ∧
      x.execute registry behave now = x.expired := by
  cases behaves : behave task x.params with
  | none =>
    simp only [ending, Submission.aborted?, Submission.execute, start, behaves, Option.map_some,
      Option.toList_some, and_self]
  | some last =>
    obtain ⟨time, last⟩ := last
    simp only [ending, Submission.aborted?, Submission.execute, start, behaves,
      if_neg (overruns time last behaves), Option.map_some, Option.toList_some, and_self]

theorem countP_rounds (taken : List (Submission × Instant)) :
    (rounds registry behave taken).countP Note.isHanded = taken.length := by
  induction taken using List.reverseRecOn with
  | nil => rfl
  | append_singleton taken r ih =>
    obtain ⟨x, now⟩ := r
    rw [rounds_concat, List.countP_append, ih, round, List.cons_append, List.countP_cons,
      List.countP_append, countP_course]
    simp [Note.isHanded]

/-- What was noted of the round that a worker is in. -/
def Within (registry : Dict τ) (behave : τ → Params → Submission.Behaviour) :
    Worker τ → List (Note τ) → Prop
  | .parked, l | .draining, l | .looking, l | .exited, l => l = []
  | .holding x, l | .counted x, l => l = [.taken x]
  | .running x task limit, l =>
    ∃ now, x.start registry now = .run task limit ∧ l = .taken x :: opening registry x now
  | .finished x outcome, l | .storing x outcome, l =>
    ∃ now, outcome = x.execute registry behave now ∧ l = .taken x :: course registry behave x now

/-- What a worker has done consists of rounds, up to the one that it is in. -/
def InRounds (registry : Dict τ) (behave : Nat → τ → Params → Submission.Behaviour) (a : Worker τ)
    (l : List (Note τ)) : Prop :=
  ∃ taken current, l = rounds registry behave taken ++ current ∧
    Within registry (behave taken.length) a current

theorem countP_of_within {behave : τ → Params → Submission.Behaviour} {current : List (Note τ)}
    (within : Within registry behave a current) : current.countP Note.isHanded = 0 := by
  cases a with
  | parked | draining | looking | exited =>
    cases within
    rfl
  | holding x | counted x =>
    cases within
    rfl
  | running x task limit =>
    obtain ⟨now, -, rfl⟩ := within
    rw [List.countP_cons, countP_opening]
    rfl
  | finished x outcome | storing x outcome =>
    obtain ⟨now, -, rfl⟩ := within
    rw [List.countP_cons, countP_course]
    rfl

/-- As many outcomes are handed over as rounds are complete. -/
theorem done_eq {taken : List (Submission × Instant)} {current : List (Note τ)}
    (split : notes w h = rounds registry behave taken ++ current)
    (within : Within registry (behave taken.length) a current) : done w h = taken.length := by
  rw [done, split, List.countP_append, countP_rounds, countP_of_within within, Nat.add_zero]

/-- A step of a worker leads on within its round, or to the end of it. -/
theorem Within.step {taken : List (Submission × Instant)} {current : List (Note τ)}
    (within : Within registry (behave taken.length) a current)
    (moves : Moves registry w e a b l)
    (ends : ∀ x task limit last, a = .running x task limit → e = .finish w last →
      ∃ time, behave taken.length task x.params = some (time, last) ∧ time ≤ limit)
    (overruns : ∀ x task limit, a = .running x task limit → e = .overrun w → ∀ time last,
      behave taken.length task x.params = some (time, last) → ¬ time ≤ limit) :
    InRounds registry behave b (rounds registry behave taken ++ current ++ l) := by
  have on {l' : List (Note τ)} (eq : current ++ l = l')
      (within : Within registry (behave taken.length) b l') :
      InRounds registry behave b (rounds registry behave taken ++ current ++ l) :=
    ⟨taken, l', by rw [List.append_assoc, eq], within⟩
  have next {x : Submission} {outcome : Outcome} (idle : b = .draining)
      (noted : l = [.handed x outcome]) (held : ∃ now,
        outcome = x.execute registry (behave taken.length) now ∧
          current = .taken x :: course registry (behave taken.length) x now) :
      InRounds registry behave b (rounds registry behave taken ++ current ++ l) := by
    obtain ⟨now, rfl, rfl⟩ := held
    subst idle noted
    refine ⟨taken ++ [(x, now)], [], ?_, rfl⟩
    rw [rounds_concat, List.append_nil, List.append_assoc]
    rfl
  cases moves with
  | wake => exact on (by cases within; rfl) rfl
  | look => exact on (by cases within; rfl) rfl
  | stop => exact on (by cases within; rfl) rfl
  | rest => exact on (by cases within; rfl) rfl
  | exit => exact on (by cases within; rfl) rfl
  | take x => exact on (by cases within; rfl) rfl
  | count x => exact on (by cases within; rfl) rfl
  | @settle x now outcome start =>
    cases within
    refine on rfl ⟨now, ?_, ?_⟩
    · simp only [Submission.execute, start]
    · rw [course, ending_of_settled start, List.append_nil]
      rfl
  | @run x now task limit start =>
    cases within
    exact on rfl ⟨now, start, rfl⟩
  | finish x task limit last =>
    obtain ⟨now, start, rfl⟩ := within
    obtain ⟨time, behaves, inTime⟩ := ends x task limit last rfl rfl
    refine on (List.append_nil _) ⟨now, ?_, ?_⟩
    · simp only [Submission.execute, start, behaves, if_pos inTime]
    · rw [course, ending_of_end start behaves inTime, List.append_nil]
  | overrun x task limit =>
    obtain ⟨now, start, rfl⟩ := within
    obtain ⟨aborted, expired⟩ := ending_of_overrun start (overruns x task limit rfl rfl)
    refine on rfl ⟨now, expired.symm, ?_⟩
    rw [course, aborted]
    rfl
  | uncount x outcome =>
    obtain ⟨now, eq, rfl⟩ := within
    exact on (List.append_nil _) ⟨now, eq, rfl⟩
  | store x outcome => exact next rfl rfl within
  | lose x outcome => exact next rfl rfl within

/-! ## Runs -/

/-- All workers have done rounds, and those still to come nothing. -/
structure Kept (registry : Dict τ) (bodies : Bodies τ) (p : Pool τ) (h : List (Mark τ)) : Prop where
  registered : p.registry = registry
  workers : ∀ (w : Nat) (a : Worker τ), p.workers[w]? = some a →
    InRounds registry (bodies w) a (notes w h)
  idle : ∀ w, p.workers.length ≤ w → notes w h = []

theorem Kept.step (before : Kept registry bodies p h) (happens : p.apply e = some next)
    (allows : Allows bodies p h e) : Kept registry bodies next (h ++ p.marks e) := by
  cases own : e.worker? with
  | none =>
    obtain ⟨same, silent, count, workers⟩ := still_of_apply happens own
    rw [silent, List.append_nil]
    refine ⟨same.trans before.registered, fun w a at_ => ?_, fun w out => ?_⟩
    · rw [workers] at at_
      by_cases inside : w < p.workers.length
      · rw [List.getElem?_append_left inside] at at_
        exact before.workers w a at_
      · rw [List.getElem?_append_right (Nat.le_of_not_lt inside)] at at_
        have new : a = .parked := List.eq_of_mem_replicate (List.mem_of_getElem? at_)
        rw [before.idle w (Nat.le_of_not_lt inside), new]
        exact ⟨[], [], rfl, rfl⟩
    · rw [workers, List.length_append] at out
      exact before.idle w (by omega)
  | some v =>
    obtain ⟨a, b, l, was, workers, same, noted, moves⟩ := moves_of_apply happens own
    have inRange := (List.getElem?_eq_some_iff.1 was).1
    rw [before.registered] at moves
    rw [noted]
    refine ⟨same.trans before.registered, fun w c at_ => ?_, fun w out => ?_⟩
    · rw [workers] at at_
      by_cases this : v = w
      · subst this
        rw [List.getElem?_set_self inRange, Option.some.injEq] at at_
        subst at_
        obtain ⟨taken, current, split, within⟩ := before.workers v a was
        have count := done_eq split within
        rw [notes_append, notes_self, split]
        refine within.step moves (fun x task limit last running finish => ?_)
          fun x task limit running overrun => ?_
        · subst running finish
          exact count ▸ allows x task limit was
        · subst running overrun
          exact count ▸ allows x task limit was
      · rw [List.getElem?_set_ne this] at at_
        rw [notes_append, notes_of_ne this, List.append_nil]
        exact before.workers w c at_
    · rw [workers, List.length_set] at out
      rw [notes_append, notes_of_ne (by omega), List.append_nil]
      exact before.idle w out

theorem Kept.run {events : List Event} (before : Kept registry bodies p h)
    (run : p.run? events = some q) (follows : Follows bodies p h events) :
    Kept registry bodies q (h ++ p.history events) := by
  induction events generalizing p h with
  | nil =>
    cases run
    simpa [history, Run.history] using before
  | cons e rest ih =>
    rw [run?, Run.last?] at run
    cases happens : p.apply e with
    | none => simp [happens] at run
    | some next =>
      rw [happens] at run
      have later := ih (before.step happens follows.1) run (follows.2 next happens)
      rw [history, Run.history, happens, ← List.append_assoc]
      exact later

/-! ## Going on -/

/-- Steps of one worker that accord with what bodies do, and what it does. -/
structure Goes (bodies : Bodies τ) (w : Nat) (p : Pool τ) (h : List (Mark τ)) (events : List Event)
    (q : Pool τ) (l : List (Note τ)) : Prop where
  own : ∀ e ∈ events, e.worker? = some w
  run : p.run? events = some q
  follows : Follows bodies p h events
  noted : p.history events = l.map (.mk w)

theorem Goes.nil : Goes bodies w p h [] p [] := ⟨fun _ mem => (nomatch mem), rfl, trivial, rfl⟩

theorem Goes.cons {events : List Event} {m : List (Note τ)} (own : e.worker? = some w)
    (happens : p.apply e = some next) (allows : Allows bodies p h e)
    (noted : p.marks e = l.map (.mk w)) (later : Goes bodies w next (h ++ l.map (.mk w)) events q m) :
    Goes bodies w p h (e :: events) q (l ++ m) where
  own e' mem := by
    rcases List.mem_cons.1 mem with rfl | mem
    · exact own
    · exact later.own e' mem
  run := by
    rw [run?, Run.last?, happens]
    exact later.run
  follows := by
    refine ⟨allows, fun next' same => ?_⟩
    cases happens.symm.trans same
    rw [noted]
    exact later.follows
  noted := by
    rw [history, Run.history, happens, noted, List.map_append]
    exact congrArg _ later.noted

theorem Goes.trans {events more : List Event} {m : List (Note τ)} {r : Pool τ}
    (first : Goes bodies w p h events q l)
    (later : Goes bodies w q (h ++ l.map (.mk w)) more r m) :
    Goes bodies w p h (events ++ more) r (l ++ m) where
  own e mem := (List.mem_append.1 mem).elim (first.own e) (later.own e)
  run := (Run.last?_append first.run more).trans later.run
  follows := first.follows.append first.run (first.noted ▸ later.follows)
  noted := by
    rw [history, Run.history_append first.run, List.map_append]
    exact congrArg₂ _ first.noted later.noted

/-- A worker comes back to the queue by some steps of its own, and leaves the queue and the other
workers as they are. -/
def Returns (bodies : Bodies τ) (w : Nat) (p : Pool τ) (h : List (Mark τ)) (events : List Event)
    (l : List (Note τ)) : Prop :=
  ∃ q, Goes bodies w p h events q l ∧ q.workers = p.workers.set w .draining ∧
    q.pending = p.pending ∧ q.cancelled = p.cancelled ∧ q.registry = p.registry

/-- A step on the way back to the queue. -/
theorem Returns.head {mid : Pool τ} {events : List Event} {m : List (Note τ)}
    (later : Returns bodies w mid (h ++ l.map (.mk w)) events m) (own : e.worker? = some w)
    (happens : p.apply e = some mid) (allows : Allows bodies p h e)
    (noted : p.marks e = l.map (.mk w)) (workers : mid.workers = p.workers.set w b)
    (pending : mid.pending = p.pending) (cancelled : mid.cancelled = p.cancelled)
    (registry : mid.registry = p.registry) : Returns bodies w p h (e :: events) (l ++ m) := by
  obtain ⟨q, goes, workers', pending', cancelled', registry'⟩ := later
  refine ⟨q, .cons own happens allows noted goes, ?_, pending'.trans pending,
    cancelled'.trans cancelled, registry'.trans registry⟩
  rw [workers', workers, List.set_set]

section Returning

variable (h bodies)

end Returning

/-- A submission of a number, for a task and until some instant. -/
def sampleOf (n : Nat) (task : String) (validUntil : Instant) : Submission :=
  ⟨⟨.ofNat n⟩, task, .empty, .epoch, validUntil⟩

/-- A submission that expires halfway through a leap second. -/
def sampleLeap : Submission :=
  sampleOf 1 "ping" ⟨1483228799, 1500000000, by decide, by decide, by decide⟩

end Pool

end JobNode
