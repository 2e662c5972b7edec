import JobNode.Proofs.Queue.Rounds
import JobNode.Proofs.Queue.Slots

/-!
# Submissions are taken in order

Whoever takes from the queue takes the oldest submission, so what was taken is the beginning of what
was accepted.  The server takes only what its workers have left, so the outcomes that say that the
queue was closed come last.  A single worker holds one submission at a time: it starts a body when
it has come to an outcome for everything before, and hands the outcomes over in the order of
acceptance.  Beside the body that it waits for, only bodies that it has told to end can be in progress.

* `Pool.inOrder_of_run`: the order of a queue, whoever sends and takes.
* `Pool.Hands.step`: what workers have in hands, have started and have handed over.
* `Server.worker_of_deed`, `Server.closing_of_deed`: who can do a deed, and when.
* `Deeds.Parted`, `Server.Drained`: the deeds of the workers come before those of the server.
* `Server.InTurn`: a single worker goes from one submission to the next.
* `Server.taken_in_order`: the order in which submissions are taken, started and settled.
-/

namespace JobNode

/-- Who does the deed, if it is one of those who take submissions. -/
def Deed.taker? : Deed → Option Taker
  | .taken t _ => some t
  | .begun w _ | .cut w _ | .lost w _ => some (.worker w)
  | .settled t _ _ => some t
  | .opened | .accepted _ | .halted | .dropped _ => none

namespace Deeds

/-- A taker that has done nothing has taken, started and handed over nothing. -/
theorem nothing_of_taker {h : Deeds} {t : Taker} (none : ∀ d ∈ h, d.taker? ≠ some t) :
    h.takenBy t = [] ∧ h.begunBy t = [] ∧ h.disposedBy t = [] := by
  have empty {α : Type} (f : Deed → Option (Taker × α))
      (own : ∀ d entry, f d = some entry → d.taker? = some entry.1) :
      (((h.filterMap f).filter (·.1 = t)).map (·.2)) = [] := by
    rw [List.map_eq_nil_iff, List.filter_eq_nil_iff]
    intro entry mem
    obtain ⟨d, there, eq⟩ := List.mem_filterMap.1 mem
    rw [decide_eq_true_eq]
    rintro rfl
    exact none d there (own d entry eq)
  refine ⟨empty _ fun d entry eq => ?_, empty _ fun d entry eq => ?_,
    empty _ fun d entry eq => ?_⟩ <;> cases d <;> cases eq <;> rfl

/-- The deeds of the workers come first, and those of the server last. -/
def Parted (h : Deeds) : Prop :=
  ∃ early late, h = early ++ late ∧ (∀ d ∈ early, d.taker? ≠ some .server) ∧
    ∀ d ∈ late, ∀ w, d.taker? ≠ some (.worker w)

variable {h : Deeds} {d : Deed}

/-- A body told to end before, or told now, is one that has been told to end. -/
theorem exists_cut_append {k : Deeds} {x : Submission}
    (told : (∃ w, .cut w x ∈ h) ∨ ∃ w, .cut w x ∈ k) : ∃ w, .cut w x ∈ h ++ k := by
  rcases told with ⟨w, old⟩ | ⟨w, new⟩
  · exact ⟨w, List.mem_append_left k old⟩
  · exact ⟨w, List.mem_append_right h new⟩

theorem parted_of_early (early : ∀ d ∈ h, d.taker? ≠ some .server) : h.Parted :=
  ⟨h, [], (List.append_nil h).symm, early, fun _ mem => nomatch mem⟩

theorem Parted.concat (parted : h.Parted) (late : ∀ w, d.taker? ≠ some (.worker w)) :
    Parted (h ++ [d]) := by
  obtain ⟨early, others, rfl, ofWorkers, ofServer⟩ := parted
  refine ⟨early, others ++ [d], List.append_assoc early others [d], ofWorkers, fun d' mem => ?_⟩
  rcases List.mem_append.1 mem with old | new
  · exact ofServer d' old
  · rw [List.mem_singleton.1 new]
    exact late

/-- The outcomes that the workers recorded come before those that the server recorded. -/
theorem Parted.exists_settlements (parted : h.Parted) :
    ∃ executed closed, h.settlements = executed ++ closed ∧
      (∀ entry ∈ executed, entry.1 ≠ .server) ∧ ∀ entry ∈ closed, entry.1 = .server := by
  obtain ⟨early, late, rfl, ofWorkers, ofServer⟩ := parted
  refine ⟨settlements early, settlements late, settlements_append early late, ?_, ?_⟩
  · rintro ⟨t, x, outcome⟩ mem rfl
    exact ofWorkers _ (mem_settlements.1 mem) rfl
  · rintro ⟨t, x, outcome⟩ mem
    cases t with
    | server => rfl
    | worker w => exact absurd rfl (ofServer _ (mem_settlements.1 mem) w)

end Deeds

/-! ## The order of a queue -/

namespace Pool

variable {τ : Type} {p next : Pool τ} {e : Event}

/-- What comes in goes to the end of the queue, and what is taken was its beginning. -/
theorem queue_of_apply (happens : p.apply e = some next) :
    p.pending ++ (p.deeds e).accepted = (p.deeds e).takings.map (·.2) ++ next.pending := by
  cases own : e.worker? with
  | some w =>
    obtain ⟨before, after, step⟩ := workerStep_of_apply own happens
    rw [step.accepted, List.append_nil]
    exact step.queue
  | none =>
    cases step_of_apply happens with
    | send => rfl
    | start | refuse | cancel | close | forget | cease => exact List.append_nil _
    | _ => cases own

/-- What was taken and what still waits is what was sent, in that order. -/
def InOrder (p : Pool τ) (h : Deeds) : Prop := h.accepted = h.takings.map (·.2) ++ p.pending

theorem InOrder.step {h : Deeds} (before : InOrder p h) (happens : p.apply e = some next) :
    InOrder next (h ++ p.deeds e) := by
  rw [InOrder, Deeds.accepted_append, before, List.append_assoc, queue_of_apply happens,
    Deeds.takings_append, List.map_append, List.append_assoc]

/-- A queue keeps its order, whatever is sent and taken, and however often workers are started or
stopped. -/
theorem inOrder_of_run {registry : Dict τ} {events : List Event}
    (run : (empty registry).run? events = some p) :
    InOrder p (Run.history apply deeds (empty registry) events) :=
  Run.history_induction InOrder.step rfl run

/-! ## Hands -/

variable {h : Deeds} {d : Deed} {w : Nat}

/-- A worker that does something to a submission is there, and has not gone. -/
theorem worker_of_deed {t : Taker} (happens : p.apply e = some next) (mem : d ∈ p.deeds e)
    (own : d.taker? = some t) :
    ∃ w state, t = .worker w ∧ p.workers[w]? = some state ∧ state ≠ .exited := by
  cases does_of_mem mem with
  | sends | drops => cases own
  | begins there | cuts there | stores there | loses there =>
    cases own
    exact ⟨_, _, rfl, there, by simp⟩
  | takes first =>
    cases own
    simp only [apply] at happens
    split at happens
    next looking _ => exact ⟨_, _, rfl, looking, by simp⟩
    · cases happens

/-- The body that a worker has not started yet, if it has a submission in hands. -/
def unstarted (p : Pool τ) (w : Nat) : List Submission :=
  (p.workers[w]?.bind Worker.unstarted?).toList

/-- A step that is not one of a worker leaves in its hands what was there. -/
theorem bind_of_still {α : Type} {f : Worker τ → Option α} (idle : f .parked = none)
    (happens : p.apply e = some next) (other : e.worker? = none) (w : Nat) :
    next.workers[w]?.bind f = p.workers[w]?.bind f := by
  obtain ⟨-, -, count, workers⟩ := still_of_apply happens other
  rw [workers]
  rcases Nat.lt_or_ge w p.workers.length with old | new
  · rw [List.getElem?_append_left old]
  · rw [List.getElem?_append_right new, List.getElem?_eq_none new, List.getElem?_replicate]
    split
    · exact idle
    · rfl

/-- By a step that is not one of a worker nobody takes, starts or hands over anything. -/
theorem nothing_of_still (other : e.worker? = none) (t : Taker) :
    (p.deeds e).takenBy t = [] ∧ (p.deeds e).begunBy t = [] ∧ (p.deeds e).disposedBy t = [] := by
  refine Deeds.nothing_of_taker fun d mem => ?_
  cases does_of_mem mem with
  | sends | drops => nofun
  | takes | begins | cuts | stores | loses => cases other

/-- What a worker takes comes into its hands, and what it hands over leaves them. -/
theorem hands_of_apply (happens : p.apply e = some next) (w : Nat) :
    p.held w ++ (p.deeds e).takenBy (.worker w) =
      (p.deeds e).disposedBy (.worker w) ++ next.held w := by
  cases own : e.worker? with
  | none =>
    obtain ⟨taken, -, disposed⟩ := nothing_of_still own (.worker w)
    rw [taken, disposed, List.append_nil, held, held, bind_of_still rfl happens own]
    rfl
  | some v =>
    obtain ⟨before, after, step⟩ := workerStep_of_apply own happens
    exact step.hands w

/-- A worker starts only what it has taken and not started. -/
theorem begins_of_apply (happens : p.apply e = some next) (w : Nat) :
    ((p.deeds e).begunBy (.worker w) ++ next.unstarted w).Sublist
      (p.unstarted w ++ (p.deeds e).takenBy (.worker w)) := by
  cases own : e.worker? with
  | none =>
    obtain ⟨taken, begun, -⟩ := nothing_of_still own (.worker w)
    rw [taken, begun, List.append_nil, unstarted, unstarted, bind_of_still rfl happens own]
    exact .refl _
  | some v =>
    obtain ⟨before, after, step⟩ := workerStep_of_apply own happens
    by_cases this : v = w
    · subst this
      rw [unstarted, unstarted, step.workers, step.was,
        List.getElem?_set_self (List.getElem?_eq_some_iff.1 step.was).1]
      exact step.begins
    · obtain ⟨taken, begun, -⟩ := step.others (.worker w) fun same => this (Taker.worker.inj same).symm
      rw [taken, begun, unstarted, unstarted, step.workers, List.getElem?_set_ne this,
        List.append_nil]
      exact .refl _

/-- A body that goes on beside the workers is one that they have told to end. -/
theorem strays_of_apply {x : Submission} (happens : p.apply e = some next) (mem : x ∈ next.strays) :
    x ∈ p.strays ∨ ∃ w, .cut w x ∈ p.deeds e := by
  cases step_of_apply happens with
  | cease => exact .inl (List.mem_of_mem_eraseIdx mem)
  | @overrun w y task limit was =>
    rcases List.mem_append.1 mem with old | new
    · exact .inl old
    · cases List.mem_singleton.1 new
      exact .inr ⟨w, by simp [deeds, was]⟩
  | _ => exact .inl mem

theorem workers_length_le (happens : p.apply e = some next) :
    p.workers.length ≤ next.workers.length := by
  cases own : e.worker? with
  | none =>
    obtain ⟨-, -, count, workers⟩ := still_of_apply happens own
    rw [workers, List.length_append]
    exact Nat.le_add_right _ _
  | some w =>
    obtain ⟨before, after, step⟩ := workerStep_of_apply own happens
    rw [step.workers, List.length_set]

/-- A body is started when everything that was taken before it is over. -/
def StartsNext (finished : Deeds → List Submission) (past : Deeds) (d : Deed) : Prop :=
  ∀ w x, d = .begun w x → past.takings.map (·.2) = finished past ++ [x]

/-- What workers have taken, started and handed over, and the bodies beside them. -/
structure Hands (p : Pool τ) (h : Deeds) : Prop where
  kept : ∀ w, h.takenBy (.worker w) = h.disposedBy (.worker w) ++ p.held w
  begins : ∀ w, (h.begunBy (.worker w) ++ p.unstarted w).Sublist (h.takenBy (.worker w))
  own : ∀ d ∈ h, ∀ t, d.taker? = some t → ∃ w < p.workers.length, t = .worker w
  strays : ∀ x ∈ p.strays, ∃ w, .cut w x ∈ h
  starts : p.workers.length ≤ 1 →
    Run.Always (StartsNext fun past => past.disposals.map (·.2)) h

theorem hands_empty (registry : Dict τ) : Hands (empty registry) [] where
  kept _ := rfl
  begins _ := .refl _
  own := fun _ mem => nomatch mem
  strays := fun _ mem => nomatch mem
  starts _ := Run.always_nil

/-- What the first worker has done is all, if nobody else did anything. -/
theorem eq_first {α : Type} (f : Deed → Option (Taker × α))
    (own : ∀ d ∈ h, ∀ entry, f d = some entry → entry.1 = .worker 0) :
    (h.filterMap f).map (·.2) = ((h.filterMap f).filter (·.1 = .worker 0)).map (·.2) := by
  rw [List.filter_eq_self.2]
  intro entry mem
  obtain ⟨d, there, eq⟩ := List.mem_filterMap.1 mem
  exact decide_eq_true (own d there entry eq)

section Single

variable (hands : Hands p h) (few : p.workers.length ≤ 1)

include hands few

theorem Hands.first {t : Taker} (mem : d ∈ h) (own : d.taker? = some t) : t = .worker 0 := by
  obtain ⟨w, bound, rfl⟩ := hands.own d mem t own
  have : w = 0 := by omega
  rw [this]

theorem Hands.takings_eq : h.takings.map (·.2) = h.takenBy (.worker 0) := by
  refine eq_first _ fun d mem entry eq => hands.first few mem ?_
  cases d <;> cases eq
  rfl

/-- A single worker hands outcomes over in the order in which it takes submissions. -/
theorem Hands.single : h.takings.map (·.2) = h.disposals.map (·.2) ++ p.held 0 := by
  have disposed : h.disposals.map (·.2) = h.disposedBy (.worker 0) := by
    refine eq_first _ fun d mem entry eq => hands.first few mem ?_
    cases d <;> cases eq <;> rfl
  rw [hands.takings_eq few, disposed, hands.kept]

/-- A single worker starts bodies in the order in which it takes submissions. -/
theorem Hands.begun_sublist : (h.begun.map (·.2)).Sublist (h.takings.map (·.2)) := by
  have begun : h.begun.map (·.2) = h.begunBy (.worker 0) := by
    refine eq_first _ fun d mem entry eq => hands.first few mem ?_
    cases d <;> cases eq
    rfl
  rw [begun, hands.takings_eq few]
  exact (List.sublist_append_left _ _).trans (hands.begins 0)

end Single

theorem Hands.step (before : Hands p h) (happens : p.apply e = some next) :
    Hands next (h ++ p.deeds e) := by
  have longer := workers_length_le happens
  refine ⟨fun w => ?_, fun w => ?_, fun d mem t own => ?_, fun x stray => ?_, fun few => ?_⟩
  · rw [Deeds.takenBy_append, Deeds.disposedBy_append, before.kept, List.append_assoc,
      hands_of_apply happens, List.append_assoc]
  · rw [Deeds.takenBy_append, Deeds.begunBy_append, List.append_assoc]
    refine ((begins_of_apply happens w).append_left _).trans ?_
    rw [← List.append_assoc]
    exact (before.begins w).append_right _
  · rcases List.mem_append.1 mem with old | new
    · obtain ⟨w, bound, eq⟩ := before.own d old t own
      exact ⟨w, by omega, eq⟩
    · obtain ⟨w, state, eq, there, -⟩ := worker_of_deed happens new own
      exact ⟨w, Nat.lt_of_lt_of_le (List.getElem?_eq_some_iff.1 there).1 longer, eq⟩
  · exact Deeds.exists_cut_append ((strays_of_apply happens stray).imp_left (before.strays x))
  · have single : p.workers.length ≤ 1 := by omega
    rcases p.deeds_cases e with none | ⟨d, one⟩
    · rw [none, List.append_nil]
      exact before.starts single
    · rw [one]
      refine (before.starts single).concat ?_
      rintro w x rfl
      have mem : .begun w x ∈ p.deeds e := one ▸ List.mem_singleton.2 rfl
      cases does_of_mem mem with
      | begins counted =>
        have inRange := (List.getElem?_eq_some_iff.1 counted).1
        obtain rfl : w = 0 := by omega
        rw [before.single single, held, counted]
        rfl

theorem hands_of_run {registry : Dict τ} {events : List Event}
    (run : (empty registry).run? events = some p) :
    Hands p (Run.history apply deeds (empty registry) events) :=
  Run.history_induction Hands.step (hands_empty registry) run

end Pool

namespace Server

variable {τ : Type} {s next : Server τ} {h : Deeds} {e : Event τ} {d : Deed} {w : Nat}

/-! ## Who can do a deed -/

/-- A worker that takes, starts or settles something is there, and has not gone. -/
theorem worker_of_deed (happens : s.apply e = some next) (mem : d ∈ s.deeds e)
    (own : d.taker? = some (.worker w)) :
    ∃ state, s.pool.workers[w]? = some state ∧ state ≠ .exited := by
  cases does_of_mem mem with
  | opens | accepts | drops | halts | takes | closes => cases own
  | works =>
    simp only [apply] at happens
    split at happens
    · obtain ⟨pool, worked, -⟩ := Option.map_eq_some_iff.1 happens
      obtain ⟨v, state, same, there⟩ := Pool.worker_of_deed worked mem own
      cases same
      exact ⟨state, there⟩
    · cases happens

theorem Orderly.not_deserted (orderly : s.Orderly) {state : Worker τ}
    (there : s.pool.workers[w]? = some state) (alive : state ≠ .exited) : ¬ s.Deserted :=
  fun gone => alive (orderly.exited gone state (List.mem_of_getElem? there))

/-- The server takes and settles only once the workers are gone. -/
theorem closing_of_deed (orderly : s.Orderly) (happens : s.apply e = some next)
    (mem : d ∈ s.deeds e) (own : d.taker? = some .server) : s.phase = .closing := by
  cases does_of_mem mem with
  | opens | accepts | drops | halts => cases own
  | works does => cases does <;> cases own
  | closes held => exact orderly.closing _ held
  | takes first =>
    simp only [apply] at happens
    split at happens
    next closing _ _ => exact closing
    · cases happens

/-- What a step does to the workers as a whole. -/
structure Staffed (s next : Server τ) : Prop where
  settings : next.settings = s.settings
  workers : next.pool.workers.length = s.pool.workers.length ∨
    next.pool.workers.length = s.settings.workers
  deserted : s.Deserted → next.Deserted

theorem staffed_of_apply (happens : s.apply e = some next) : Staffed s next := by
  cases passes_of_apply happens with
  | registered => exact ⟨rfl, .inl rfl, id⟩
  | started idle _ settings _ workers =>
    refine ⟨settings, .inr (by rw [workers, List.length_replicate]), fun gone => ?_⟩
    exact absurd gone (not_deserted_of_phase (.inl idle))
  | worked own worked =>
    obtain ⟨w, worker⟩ := Pool.Event.exists_worker own
    obtain ⟨before, after, step⟩ := Pool.workerStep_of_apply worker worked
    exact ⟨rfl, .inl (by rw [step.workers, List.length_set]), id⟩
  | kept _ _ settings _ workers deserted => exact ⟨settings, .inl (congrArg _ workers), deserted⟩

/-! ## Workers first -/

/-- The server has done nothing while there are workers, and they do nothing after it. -/
structure Drained (s : Server τ) (h : Deeds) : Prop where
  orderly : s.Orderly
  parted : h.Parted
  early : ¬ s.Deserted → ∀ d ∈ h, d.taker? ≠ some .server

theorem drained_create (settings : QueueSettings) : Drained (create settings : Server τ) [] where
  orderly := orderly_create settings
  parted := Deeds.parted_of_early fun _ mem => nomatch mem
  early _ := fun _ mem => nomatch mem

theorem Drained.step (before : Drained s h) (happens : s.apply e = some next) :
    Drained next (h ++ s.deeds e) := by
  have staffed := staffed_of_apply happens
  have stays (busy : ¬ next.Deserted) : ∀ d ∈ h, d.taker? ≠ some .server :=
    before.early fun gone => busy (staffed.deserted gone)
  rcases deeds_cases s e with none | ⟨d, one⟩
  · rw [none, List.append_nil]
    exact ⟨(step_of_apply before.orderly happens).orderly, before.parted, stays⟩
  · have mem : d ∈ s.deeds e := one ▸ List.mem_singleton.2 rfl
    rw [one]
    refine ⟨(step_of_apply before.orderly happens).orderly, ?_, fun busy => ?_⟩
    · by_cases ofWorker : ∃ w, d.taker? = some (.worker w)
      · -- a worker is there, so the server has done nothing yet
        obtain ⟨w, own⟩ := ofWorker
        obtain ⟨state, there, alive⟩ := worker_of_deed happens mem own
        have none := before.early (before.orderly.not_deserted there alive)
        refine Deeds.parted_of_early (List.forall_mem_append.2 ⟨none, ?_⟩)
        rw [List.forall_mem_singleton, own]
        nofun
      · exact before.parted.concat fun w own => ofWorker ⟨w, own⟩
    · refine List.forall_mem_append.2 ⟨stays busy, ?_⟩
      rw [List.forall_mem_singleton]
      intro own
      exact busy (staffed.deserted (.inl (closing_of_deed before.orderly happens mem own)))

theorem drained_of_run {settings : QueueSettings} {events : List (Event τ)}
    (run : (create settings : Server τ).run? events = some s) :
    Drained s ((create settings : Server τ).history events) :=
  Run.history_induction Drained.step (drained_create settings) run

/-! ## A single worker -/

/-- What the first worker and the server hold. -/
def inHands (s : Server τ) : List Submission := s.holds (.worker 0) ++ s.holds .server

theorem Orderly.holds_server (orderly : s.Orderly) (busy : ¬ s.Deserted) :
    s.holds .server = [] := by
  rw [holds]
  cases held : s.closing? with
  | none => rfl
  | some x => exact absurd (.inl (orderly.closing x held)) busy

theorem Orderly.holds_worker (orderly : s.Orderly) (gone : s.Deserted) (w : Nat) :
    s.holds (.worker w) = [] := by
  rw [holds]
  cases there : s.pool.workers[w]? with
  | none => rfl
  | some state =>
    rw [orderly.exited gone state (List.mem_of_getElem? there)]
    rfl

theorem Orderly.length_inHands (orderly : s.Orderly) : s.inHands.length ≤ 1 := by
  have short (t : Taker) : (s.holds t).length ≤ 1 := by
    cases t with
    | worker w =>
      rw [holds]
      cases s.pool.workers[w]?.bind Worker.held? <;> simp
    | server =>
      rw [holds]
      cases s.closing? <;> simp
  rw [inHands, List.length_append]
  by_cases gone : s.Deserted
  · rw [orderly.holds_worker gone, List.length_nil, Nat.zero_add]
    exact short .server
  · rw [orderly.holds_server gone, List.length_nil, Nat.add_zero]
    exact short (.worker 0)

/-- What the first worker holds is all that is in hands. -/
theorem Orderly.inHands_of_holding (orderly : s.Orderly) {state : Worker τ} {x : Submission}
    (there : s.pool.workers[0]? = some state) (held : state.held? = some x) : s.inHands = [x] := by
  have alive : state ≠ .exited := by
    rintro rfl
    cases held
  rw [inHands, orderly.holds_server (orderly.not_deserted there alive), holds, there,
    Option.bind_some, held]
  rfl

/-- What the first worker or the server takes comes into hands that were empty, and what is settled
leaves them empty. -/
theorem Step.hands (step : Step s next (s.deeds e)) (orderly : s.Orderly)
    (happens : s.apply e = some next)
    (first : ∀ d ∈ s.deeds e, ∀ w, d.taker? = some (.worker w) → w = 0) :
    s.inHands ++ (s.deeds e).takings.map (·.2) =
      (s.deeds e).settlements.map (·.2.1) ++ next.inHands := by
  have ofWorker := step.custody (.worker 0)
  have ofServer := step.custody .server
  -- without a deed of a taker, everybody holds what they held
  have still {k : Deeds} (noted : s.deeds e = k) (taken : k.takings = [])
      (settled : k.settlements = []) : next.inHands = s.inHands := by
    simp only [noted, Deeds.takenBy, Deeds.settledBy, taken, settled] at ofWorker ofServer
    simpa [inHands] using congrArg₂ (· ++ ·) ofWorker.symm ofServer.symm
  rcases deeds_cases s e with none | ⟨d, one⟩
  · rw [still none rfl rfl, none]
    exact List.append_nil _
  · have mem : d ∈ s.deeds e := one ▸ List.mem_singleton.2 rfl
    have own := first d mem
    have busy {w : Nat} (taker : d.taker? = some (.worker w)) : s.holds .server = [] := by
      obtain ⟨state, there, alive⟩ := worker_of_deed happens mem taker
      exact orderly.holds_server (orderly.not_deserted there alive)
    have gone (taker : d.taker? = some .server) : s.holds (.worker 0) = [] :=
      orderly.holds_worker (.inl (closing_of_deed orderly happens mem taker)) 0
    cases d with
    | opened | accepted | halted | dropped | begun | cut | lost =>
      rw [still one rfl rfl, one]
      exact List.append_nil _
    | taken t x =>
      rw [one] at ofWorker ofServer ⊢
      change s.inHands ++ [x] = next.inHands
      rw [inHands, inHands]
      cases t with
      | worker w =>
        cases own w rfl
        change _ ++ [x] = next.holds (.worker 0) at ofWorker
        change s.holds .server ++ [] = next.holds .server at ofServer
        rw [← ofWorker, ← ofServer, busy rfl, List.append_nil, List.append_nil, List.append_nil]
      | server =>
        change s.holds (.worker 0) ++ [] = next.holds (.worker 0) at ofWorker
        change s.holds .server ++ [x] = next.holds .server at ofServer
        rw [← ofWorker, ← ofServer, List.append_nil, List.append_assoc]
    | settled t x outcome =>
      rw [one] at ofWorker ofServer ⊢
      change s.inHands ++ [] = x :: next.inHands
      rw [inHands, inHands, List.append_nil]
      cases t with
      | worker w =>
        cases own w rfl
        change s.holds (.worker 0) ++ [] = x :: next.holds (.worker 0) at ofWorker
        change s.holds .server ++ [] = next.holds .server at ofServer
        rw [List.append_nil] at ofWorker ofServer
        rw [ofWorker, ofServer, List.cons_append]
      | server =>
        change s.holds (.worker 0) ++ [] = next.holds (.worker 0) at ofWorker
        change s.holds .server ++ [] = x :: next.holds .server at ofServer
        rw [List.append_nil] at ofWorker ofServer
        rw [← ofWorker, ofServer, gone rfl, List.nil_append, List.nil_append]

/-- A single worker goes from one submission to the next. -/
structure InTurn (s : Server τ) (h : Deeds) : Prop where
  orderly : s.Orderly
  single : s.settings.workers = 1
  workers : s.pool.workers.length ≤ 1
  own : ∀ d ∈ h, ∀ w, d.taker? = some (.worker w) → w = 0
  hands : h.takings.map (·.2) = h.settlements.map (·.2.1) ++ s.inHands
  starts : Run.Always (Pool.StartsNext fun past => past.settlements.map (·.2.1)) h

theorem inTurn_create {settings : QueueSettings} (single : settings.workers = 1) :
    InTurn (create settings : Server τ) [] where
  orderly := orderly_create settings
  single := single
  workers := Nat.zero_le 1
  own := fun _ mem => nomatch mem
  hands := rfl
  starts := Run.always_nil

theorem InTurn.step (before : InTurn s h) (happens : s.apply e = some next) :
    InTurn next (h ++ s.deeds e) := by
  have step := step_of_apply before.orderly happens
  have staffed := staffed_of_apply happens
  have first (d : Deed) (mem : d ∈ s.deeds e) (w : Nat) (own : d.taker? = some (.worker w)) :
      w = 0 := by
    obtain ⟨state, there, -⟩ := worker_of_deed happens mem own
    have bound := (List.getElem?_eq_some_iff.1 there).1
    have few := before.workers
    omega
  refine ⟨step.orderly, (congrArg _ staffed.settings).trans before.single, ?_,
    List.forall_mem_append.2 ⟨before.own, first⟩, ?_, ?_⟩
  · have few := before.workers
    have single := before.single
    rcases staffed.workers with same | started <;> omega
  · rw [Deeds.takings_append, Deeds.settlements_append, List.map_append, List.map_append,
      before.hands, List.append_assoc, step.hands before.orderly happens first, List.append_assoc]
  · rcases deeds_cases s e with none | ⟨d, one⟩
    · rw [none, List.append_nil]
      exact before.starts
    · rw [one]
      refine before.starts.concat ?_
      rintro w x rfl
      have mem : .begun w x ∈ s.deeds e := one ▸ List.mem_singleton.2 rfl
      cases first _ mem w rfl
      cases does_of_mem mem with
      | works does =>
        cases does with
        | begins counted =>
          rw [before.hands, before.orderly.inHands_of_holding counted rfl]

theorem inTurn_of_run {settings : QueueSettings} (single : settings.workers = 1)
    {events : List (Event τ)} (run : (create settings : Server τ).run? events = some s) :
    InTurn s ((create settings : Server τ).history events) :=
  Run.history_induction InTurn.step (inTurn_create single) run

/-- A single worker starts bodies in the order in which it takes submissions. -/
theorem InTurn.begun_sublist (turn : InTurn s h) (account : Accounted s h) :
    (h.begun.map (·.2)).Sublist (h.takings.map (·.2)) := by
  have begun : h.begun.map (·.2) = h.begunBy (.worker 0) := by
    refine Pool.eq_first _ fun d mem entry eq => ?_
    cases d <;> cases eq
    exact congrArg Taker.worker (turn.own _ mem _ rfl)
  rw [begun]
  exact ((List.sublist_append_left _ _).trans (account.begins _)).trans
    (List.filter_sublist.map _)

/-! ## Bodies beside the workers -/

/-- Only bodies that were told to end go on beside the workers. -/
def Strayed (s : Server τ) (h : Deeds) : Prop := ∀ x ∈ s.pool.strays, ∃ w, .cut w x ∈ h

theorem strays_of_apply {x : Submission} (happens : s.apply e = some next)
    (mem : x ∈ next.pool.strays) : x ∈ s.pool.strays ∨ ∃ w, .cut w x ∈ s.deeds e := by
  cases moves_of_apply happens with
  | start started =>
    obtain ⟨-, -, -, none⟩ := kept_of_start started
    rw [none] at mem
    cases mem
  | enqueue sent =>
    obtain ⟨-, rfl⟩ := eq_of_enqueue sent
    exact .inl mem
  | work _ worked => exact Pool.strays_of_apply worked mem
  | cease => exact .inl (List.mem_of_mem_eraseIdx mem)
  | _ => exact .inl mem

theorem Strayed.step (before : Strayed s h) (happens : s.apply e = some next) :
    Strayed next (h ++ s.deeds e) := by
  intro x stray
  exact Deeds.exists_cut_append ((strays_of_apply happens stray).imp_left (before x))

theorem strayed_of_run {settings : QueueSettings} {events : List (Event τ)}
    (run : (create settings : Server τ).run? events = some s) :
    Strayed s ((create settings : Server τ).history events) :=
  Run.history_induction Strayed.step (fun _ mem => nomatch mem) run

end Server

/-! ## Bodies in progress -/

/-- The submission whose body the worker waits for. -/
def Worker.running? {τ : Type} : Worker τ → Option Submission
  | running x _ _ => some x
  | _ => none

/-- The submissions whose bodies are in progress: those that a worker waits for, and those that were
told to end. -/
def Pool.inProgress {τ : Type} (p : Pool τ) : List Submission :=
  p.workers.filterMap Worker.running? ++ p.strays

/-- A body in progress is one that a worker waits for, or was told to end. -/
theorem Pool.mem_inProgress {τ : Type} {p : Pool τ} {x : Submission} (mem : x ∈ p.inProgress) :
    (∃ (w : Nat) (task : τ) (limit : Duration), p.workers[w]? = some (.running x task limit)) ∨
      x ∈ p.strays := by
  rcases List.mem_append.1 mem with waited | stray
  · obtain ⟨state, there, running⟩ := List.mem_filterMap.1 waited
    obtain ⟨w, at_⟩ := List.getElem?_of_mem there
    cases state <;> cases running
    exact .inl ⟨w, _, _, at_⟩
  · exact .inr stray

namespace Server

variable {τ : Type}

/-- **Submissions are taken in the order in which they were accepted.**  Whoever sends to a queue,
and however many workers are started at whatever time, what was taken is the beginning of what was
sent.  A single worker hands outcomes over, starts bodies and takes submissions in that order: a body
is started when the outcomes of all submissions before it have been handed over, and each outcome is
recorded unless the backend loses it.  A body in progress belongs to the one submission in hands, or
went on for too long and was told to end.  The same holds of a server, whose workers and whose
shutdown take from one queue and whose backend keeps all outcomes, and the outcomes that say that the
queue was closed come after all others.  When the server has stopped, everything is settled in the
order of acceptance, if it has a single worker. -/
theorem taken_in_order :
    (∀ (registry : Dict τ) (events : List Pool.Event) (p : Pool τ),
      (Pool.empty registry).run? events = some p →
        let h : Deeds := Run.history Pool.apply Pool.deeds (.empty registry) events
        h.accepted = h.takings.map (·.2) ++ p.pending ∧
        (p.workers.length ≤ 1 →
          h.accepted = h.disposals.map (·.2) ++ p.held 0 ++ p.pending ∧
          (p.held 0).length ≤ 1 ∧
          (∀ x ∈ p.inProgress, p.held 0 = [x] ∨ ∃ w, .cut w x ∈ h) ∧
          (h.begun.map (·.2)).Sublist h.accepted ∧
          (∀ (past : Deeds) w x later, h = past ++ .begun w x :: later →
            past.takings.map (·.2) = past.disposals.map (·.2) ++ [x]) ∧
          (h.settlements.map (·.2.1)).Sublist (h.disposals.map (·.2)) ∧
          ((∀ w x, .lost w x ∉ h) → h.disposals.map (·.2) = h.settlements.map (·.2.1)))) ∧
    ∀ (settings : QueueSettings) (events : List (Event τ)) (s : Server τ),
      (create settings).run? events = some s →
        let h := (create settings : Server τ).history events
        h.accepted = h.takings.map (·.2) ++ s.pool.pending ∧
        (∃ executed closed, h.settlements = executed ++ closed ∧
          (∀ entry ∈ executed, entry.1 ≠ .server ∧ entry.2.2 ≠ .error .closed) ∧
          ∀ entry ∈ closed, entry.1 = .server ∧ entry.2.2 = .error .closed) ∧
        (settings.workers = 1 →
          h.accepted = h.settlements.map (·.2.1) ++ s.inHands ++ s.pool.pending ∧
          s.inHands.length ≤ 1 ∧
          (∀ x ∈ s.pool.inProgress, s.inHands = [x] ∨ ∃ w, .cut w x ∈ h) ∧
          (h.begun.map (·.2)).Sublist h.accepted ∧
          (∀ (past : Deeds) w x later, h = past ++ .begun w x :: later →
            past.takings.map (·.2) = past.settlements.map (·.2.1) ++ [x]) ∧
          (s.phase = .stopped → h.settlements.map (·.2.1) = h.accepted)) := by
  refine ⟨fun registry events p run => ?_, fun settings events s run => ?_⟩
  · intro h
    have order : Pool.InOrder p h := Pool.inOrder_of_run run
    have hands : Pool.Hands p h := Pool.hands_of_run run
    refine ⟨order, fun few => ⟨?_, ?_, fun x mem => ?_, ?_, ?_, ?_, fun kept => ?_⟩⟩
    · rw [order, hands.single few]
    · rw [Pool.held]
      cases p.workers[0]?.bind Worker.held? <;> simp
    · rcases Pool.mem_inProgress mem with ⟨w, task, limit, there⟩ | stray
      · have inRange := (List.getElem?_eq_some_iff.1 there).1
        obtain rfl : w = 0 := by omega
        exact .inl (by rw [Pool.held, there]; rfl)
      · exact .inr (hands.strays x stray)
    · rw [order]
      exact (hands.begun_sublist few).trans (List.sublist_append_left _ _)
    · exact fun past w x later split => hands.starts few past _ later split w x rfl
    · have handed := h.settlements_sublist.map Prod.snd
      rw [List.map_map] at handed
      exact handed
    · rw [Deeds.disposals_eq kept, List.map_map]
      rfl
  · intro h
    have account : Accounted s h := accounted_of_run run
    have drained : Drained s h := drained_of_run run
    refine ⟨account.queue, ?_, fun single => ?_⟩
    · obtain ⟨executed, closed, split, ofWorkers, ofServer⟩ := drained.parted.exists_settlements
      have outcome {entry : Taker × Submission × Outcome} (mem : entry ∈ executed ++ closed) :
          entry.2.2 = .error .closed ↔ entry.1 = .server := account.outcomes entry (split ▸ mem)
      refine ⟨executed, closed, split, fun entry mem => ?_, fun entry mem => ?_⟩
      · have own := ofWorkers entry mem
        exact ⟨own, fun said => own ((outcome (List.mem_append_left _ mem)).1 said)⟩
      · have own := ofServer entry mem
        exact ⟨own, (outcome (List.mem_append_right _ mem)).2 own⟩
    · have turn : InTurn s h := inTurn_of_run single run
      refine ⟨?_, turn.orderly.length_inHands, fun x mem => ?_, ?_, ?_, fun stopped => ?_⟩
      · rw [account.queue, turn.hands]
      · rcases Pool.mem_inProgress mem with ⟨w, task, limit, there⟩ | stray
        · have bound := (List.getElem?_eq_some_iff.1 there).1
          have few := turn.workers
          obtain rfl : w = 0 := by omega
          exact .inl (turn.orderly.inHands_of_holding there rfl)
        · exact .inr (strayed_of_run run x stray)
      · rw [account.queue]
        exact (turn.begun_sublist account).trans (List.sublist_append_left _ _)
      · exact fun past w x later split => turn.starts past _ later split w x rfl
      · have none : s.inHands = [] := by
          rw [inHands, account.holds_eq_nil stopped, account.holds_eq_nil stopped]
          rfl
        rw [account.queue, turn.hands, none, account.orderly.stopped stopped, List.append_nil,
          List.append_nil]

/-- The second of two workers takes the first of two submissions. -/
def sampleTaking : List Pool.Event :=
  [.start 2, .send (Pool.sampleOf 1 "ping" .last), .send (Pool.sampleOf 2 "ping" .last), .wake 1,
    .look 1, .take 1]

/-- A body goes on for too long and is told to end, the backend loses the outcome, and the same worker
starts the next body. -/
def sampleOverlap : List Pool.Event :=
  [.start 1, .send (Pool.sampleOf 1 "ping" .last), .send (Pool.sampleOf 2 "ping" .last), .wake 0,
    .look 0, .take 0, .count 0, .begin 0 .epoch, .overrun 0, .uncount 0, .lose 0, .look 0, .take 0,
    .count 0, .begin 0 .epoch]

theorem sampleRun_in_order :
    (∃ p, (Pool.empty (.ofList [("ping", ())])).run? sampleTaking = some p ∧
      [Pool.sampleOf 1 "ping" .last, Pool.sampleOf 2 "ping" .last] =
        [Pool.sampleOf 1 "ping" .last] ++ p.pending) ∧
      (∃ p, (Pool.empty (.ofList [("ping", ())])).run? sampleOverlap = some p ∧
        [Pool.sampleOf 1 "ping" .last, Pool.sampleOf 2 "ping" .last] =
          [Pool.sampleOf 1 "ping" .last] ++ p.held 0 ++ p.pending) ∧
      ∃ s, (create { workers := 1 }).run? sampleRun = some s ∧ s.phase = .stopped ∧
        ((create { workers := 1 }).history sampleRun).accepted.map (·.id) =
          [⟨.ofNat 1⟩, ⟨.ofNat 2⟩] ∧
        ((create { workers := 1 }).history sampleRun).settlements.map (·.2.1) =
          ((create { workers := 1 }).history sampleRun).accepted := by
  obtain ⟨queue, server⟩ := @taken_in_order Unit
  have taking : (Pool.empty (.ofList [("ping", ())])).run? sampleTaking = some _ := rfl
  have overlap : (Pool.empty (.ofList [("ping", ())])).run? sampleOverlap = some _ := rfl
  have run : (create { workers := 1 }).run? sampleRun = some _ := rfl
  obtain ⟨taken, -⟩ := queue _ _ _ taking
  obtain ⟨-, alone⟩ := queue _ _ _ overlap
  obtain ⟨handed, -⟩ := alone (Nat.le_refl 1)
  refine ⟨⟨_, taking, taken⟩, ⟨_, overlap, handed⟩, _, run, rfl, rfl, ?_⟩
  obtain ⟨-, -, single⟩ := server _ _ _ run
  obtain ⟨-, -, -, -, -, all⟩ := single rfl
  exact all rfl

/-- With a single worker, two bodies are in progress, and an outcome is not recorded. -/
theorem sampleOverlap_overlaps :
    ∃ p, (Pool.empty (.ofList [("ping", ())])).run? sampleOverlap = some p ∧
      p.workers.length = 1 ∧
      p.inProgress = [Pool.sampleOf 2 "ping" .last, Pool.sampleOf 1 "ping" .last] ∧
      p.backend.outcome? ⟨.ofNat 1⟩ = none :=
  ⟨_, rfl, rfl, rfl, rfl⟩

end Server

end JobNode
