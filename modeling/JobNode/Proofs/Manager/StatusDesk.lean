import JobNode.Manager.StatusDesk
import JobNode.Proofs.Manager.StatusTask
import JobNode.Proofs.Queue.Custody
import JobNode.Proofs.Queue.Rounds

/-!
# Status reports beside each other

However the steps of the workers, of the status reports and of the other users of the store alternate,
a status report asks the store at most once, and ends with what it was told there.  The worker hands
this over before it turns to anything else.

* `StatusDesk.Note`, `StatusDesk.own`: what an observer notes, and what of it concerns one worker.
* `StatusDesk.Told`, `StatusDesk.Through`: the outcome of a status report, at its end and after it.
* `StatusDesk.Accords`: how far a worker has come accords with what was noted of it.
* `StatusDesk.Fits`: what is noted fits what was noted before.
* `StatusDesk.Kept.step`, `StatusDesk.kept_of_run`: all this, along every run.
-/

namespace JobNode.Manager.StatusDesk

open StatusTask (Inquiry Reports Midway)

variable {τ : Type}

/-! ## Notes -/

/-- What an observer notes. -/
inductive Note where
  /-- A worker begins a status report. -/
  | began (w : Nat) (x : Submission)
  /-- The status report of a worker asks for a job. -/
  | asked (w : Nat) (q : Inquiry)
  /-- The status report of a worker ends in time. -/
  | ended (w : Nat) (x : Submission)
  /-- A worker hands an outcome to the backend. -/
  | settled (w : Nat) (x : Submission) (outcome : Outcome)
  /-- Somebody else has used the store. -/
  | changed (store : Store)

/-- The worker that a note is about, if it is about one. -/
def Note.worker? : Note → Option Nat
  | began w _ | asked w _ | ended w _ | settled w _ _ => some w
  | changed _ => none

/-- The store after somebody else has used it. -/
def Note.store? : Note → Option Store
  | changed store => some store
  | began _ _ | asked _ _ | ended _ _ | settled _ _ _ => none

/-- What it is to the server. -/
def Note.deed? : Note → Option Deed
  | began w x => some (.begun w x)
  | settled w x outcome => some (.settled (.worker w) x outcome)
  | asked _ _ | ended _ _ | changed _ => none

/-- The question that the status report of a worker asks, and what becomes of it. -/
def inquiry? (s : StatusDesk τ) (w : Nat) (reply : Procedure.Reply) : Option Inquiry :=
  match s.bodies.find? w, reply with
  | some (.get key _), .served => some ⟨key, s.store, none⟩
  | some (.get key _), .failed cause => some ⟨key, s.store, some cause⟩
  | _, _ => none

/-- What is noted of a step. -/
def notes (s : StatusDesk τ) : Event τ → List Note
  | .server (.work (.begin w now)) =>
    match s.server.pool.workers[w]? with
    | some (.counted x) =>
      match x.start s.server.pool.registry now with
      | .run .status _ => [.began w x]
      | _ => []
    | _ => []
  | .server (.work (.store w)) =>
    match s.server.pool.workers[w]? with
    | some (.storing x outcome) => [.settled w x outcome]
    | _ => []
  | .server _ => []
  | .answer w reply _ => (s.inquiry? w reply).toList.map (.asked w)
  | .finish w => (s.reporting? w).toList.map (.ended w)
  | .change store => [.changed store]

/-- The desk after steps; none if one of them cannot happen. -/
def run? (s : StatusDesk τ) (events : List (Event τ)) : Option (StatusDesk τ) :=
  Run.last? apply s events

/-- What is noted of the steps. -/
def history (s : StatusDesk τ) (events : List (Event τ)) : List Note :=
  Run.history apply notes s events

/-- What was noted of one worker. -/
def own (w : Nat) (h : List Note) : List Note := h.filter (·.worker? = some w)

/-- The store that the other users have left. -/
def storeAfter (store : Store) (h : List Note) : Store :=
  (h.filterMap Note.store?).getLast?.getD store

/-- What the server does in a step. -/
def steps (s : StatusDesk τ) : Event τ → List (Server.Event (Duty τ))
  | .server e => [e]
  | .finish w =>
    match s.bodies.find? w with
    | some (.done last) => [.work (.finish w last)]
    | _ => []
  | .answer _ _ _ | .change _ => []

/-- What the server does in a run. -/
def serverEvents (s : StatusDesk τ) (events : List (Event τ)) : List (Server.Event (Duty τ)) :=
  Run.history apply steps s events

variable {h k : List Note} {n : Note} {w v : Nat} {x : Submission} {outcome : Outcome}
  {store store' : Store}

theorem own_append : own w (h ++ k) = own w h ++ own w k := List.filter_append _ _

theorem own_cons_self (about : n.worker? = some w) : own w (n :: k) = n :: own w k :=
  List.filter_cons_of_pos (decide_eq_true about)

theorem own_concat_self (about : n.worker? = some w) : own w (h ++ [n]) = own w h ++ [n] := by
  rw [own_append, own_cons_self about]
  rfl

theorem own_eq_nil (others : ∀ n ∈ k, n.worker? ≠ some w) : own w k = [] := by
  refine List.filter_eq_nil_iff.2 fun n mem => ?_
  rw [decide_eq_true_eq]
  exact others n mem

theorem own_others (others : ∀ n ∈ k, n.worker? ≠ some w) : own w (h ++ k) = own w h := by
  rw [own_append, own_eq_nil others, List.append_nil]

/-- What is noted of a worker first is noted after what concerns others. -/
theorem exists_first {l rest : List Note} (first : own w l = n :: rest) :
    n.worker? = some w ∧ ∃ before after, l = before ++ n :: after ∧ own w before = [] := by
  obtain ⟨before, after, split, others, about, -⟩ := List.filter_eq_cons_iff.1 first
  refine ⟨of_decide_eq_true about, before, after, split, own_eq_nil fun n mem about => ?_⟩
  exact others n mem (decide_eq_true about)

theorem own_concat_of_ne (about : n.worker? ≠ some w) : own w (h ++ [n]) = own w h :=
  own_others (List.forall_mem_singleton.2 about)

theorem storeAfter_unchanged (unchanged : ∀ n ∈ k, n.store? = none) :
    storeAfter store (h ++ k) = storeAfter store h := by
  rw [storeAfter, List.filterMap_append, List.filterMap_eq_nil_iff.2 unchanged, List.append_nil]
  rfl

theorem storeAfter_changed (store' : Store) :
    storeAfter store (h ++ [.changed store']) = store' := by
  simp [storeAfter, List.filterMap_append, Note.store?]

/-! ## What a worker has done -/

/-- The last thing that was noted of the worker is not the end of a status report. -/
def Unended (w : Nat) (l : List Note) : Prop := ∀ x, l.getLast? ≠ some (.ended w x)

/-- The worker is at the end of a status report, which has come to the outcome. -/
def Told (w : Nat) (x : Submission) (outcome : Outcome) (l : List Note) : Prop :=
  x.task = StatusTask.name ∧ ∃ older qs last,
    l = older ++ .began w x :: qs.map (.asked w) ∧ Reports x.params qs last ∧
      outcome = x.outcome last

/-- The status report has ended. -/
def Through (w : Nat) (x : Submission) (outcome : Outcome) (l : List Note) : Prop :=
  ∃ earlier, l = earlier ++ [.ended w x] ∧ Told w x outcome earlier

/-- How far a worker has come accords with what was noted of it. -/
def Accords (w : Nat) (body? : Option (Procedure BodyEnd)) (l : List Note) :
    Option (Worker (Duty τ)) → Prop
  | none => l = []
  | some (.running x .status _) =>
    x.task = StatusTask.name ∧ ∃ older qs rest, body? = some rest ∧
      l = older ++ .began w x :: qs.map (.asked w) ∧ Midway x.params qs rest
  | some (.finished x outcome) | some (.storing x outcome) => Unended w l ∨ Through w x outcome l
  | some (.running _ (.other _) _) | some .parked | some .draining | some .looking
  | some (.holding _) | some (.counted _) | some .exited => Unended w l

/-- A question is put to the store as the others have left it; a status report ends when it is told an
outcome; and this outcome is handed over before the worker does anything else that is noted. -/
def Fits (store : Store) (past : List Note) : Note → Prop
  | .began w _ => Unended w (own w past)
  | .asked w q => Unended w (own w past) ∧ q.store = storeAfter store past
  | .ended w x => Unended w (own w past) ∧ ∃ outcome, Told w x outcome (own w past)
  | .settled w x outcome => Unended w (own w past) ∨ Through w x outcome (own w past)
  | .changed _ => True

theorem unended_nil : Unended w [] := fun _ => nofun

theorem unended_concat {l : List Note} (other : ∀ x, n ≠ .ended w x) : Unended w (l ++ [n]) := by
  intro x last
  rw [List.getLast?_concat] at last
  exact other x (Option.some.inj last)

/-- A status report that goes on has not ended. -/
theorem unended_midway (older : List Note) (qs : List Inquiry) :
    Unended w (older ++ .began w x :: qs.map (.asked w)) := by
  cases qs using List.reverseRecOn with
  | nil => exact unended_concat fun _ => nofun
  | append_singleton qs q =>
    rw [List.map_append, ← List.cons_append, ← List.append_assoc]
    exact unended_concat fun _ => nofun

/-- The questions of a status report are those since its beginning. -/
theorem questions_inj {older older' : List Note} {qs qs' : List Inquiry}
    (same : older ++ .began w x :: qs.map (.asked w) =
      older' ++ .began w x :: qs'.map (.asked w)) : qs = qs' := by
  -- the last of the notes is a question on both sides or on neither
  have split (older : List Note) (qs : List Inquiry) (q : Inquiry) :
      older ++ .began w x :: (qs ++ [q]).map (.asked w) =
        (older ++ .began w x :: qs.map (.asked w)) ++ [.asked w q] := by simp
  induction qs using List.reverseRecOn generalizing qs' with
  | nil =>
    cases qs' using List.reverseRecOn with
    | nil => rfl
    | append_singleton qs' q' =>
      rw [split] at same
      exact nomatch List.append_inj_right' same rfl
  | append_singleton qs q ih =>
    cases qs' using List.reverseRecOn with
    | nil =>
      rw [split] at same
      exact nomatch List.append_inj_right' same rfl
    | append_singleton qs' q' =>
      rw [split, split] at same
      cases List.append_inj_right' same rfl
      rw [ih (List.append_inj_left' same rfl)]

theorem Told.unique {l : List Note} {outcome' : Outcome} (told : Told w x outcome l)
    (told' : Told w x outcome' l) : outcome = outcome' := by
  obtain ⟨-, older, qs, last, rfl, reports, rfl⟩ := told
  obtain ⟨-, older', qs', last', same, reports', rfl⟩ := told'
  cases questions_inj same
  rw [reports.unique reports']

/-- Whoever has ended a status report has one outcome to hand over. -/
theorem through_concat {y : Submission} {l : List Note} :
    Through w y outcome (l ++ [.ended w x]) ↔ y = x ∧ Told w x outcome l := by
  constructor
  · rintro ⟨earlier, same, told⟩
    cases List.append_inj_right' same rfl
    exact ⟨rfl, List.append_inj_left' same rfl ▸ told⟩
  · rintro ⟨rfl, told⟩
    exact ⟨l, rfl, told⟩

theorem not_unended_concat {l : List Note} : ¬ Unended w (l ++ [.ended w x]) :=
  fun unended => unended x List.getLast?_concat

/-- Whoever has ended a status report does nothing else that is noted than hand its outcome over. -/
theorem Fits.of_ended {past l : List Note} (fits : Fits store past n) (about : n.worker? = some w)
    (ended : own w past = l ++ [.ended w x]) :
    ∃ outcome, n = .settled w x outcome ∧ Told w x outcome l := by
  have not_unended : ¬ Unended w (own w past) := ended ▸ not_unended_concat
  have same {v : Nat} (of : n.worker? = some v) : v = w := Option.some.inj (of.symm.trans about)
  cases n with
  | began v y =>
    cases same rfl
    exact absurd fits not_unended
  | asked v q =>
    cases same rfl
    exact absurd fits.1 not_unended
  | ended v y =>
    cases same rfl
    exact absurd fits.1 not_unended
  | settled v y outcome =>
    cases same rfl
    have through := fits.resolve_left not_unended
    rw [ended] at through
    obtain ⟨rfl, told⟩ := through_concat.1 through
    exact ⟨outcome, rfl, told⟩
  | changed store => cases about

/-- A worker that has just ended a status report still has its outcome. -/
theorem Accords.ended {body? : Option (Procedure BodyEnd)} {l : List Note}
    {there? : Option (Worker (Duty τ))} (accords : Accords w body? (l ++ [.ended w x]) there?) :
    ∃ outcome, Told w x outcome l ∧
      (there? = some (.finished x outcome) ∨ there? = some (.storing x outcome)) := by
  have through {y : Submission} {outcome : Outcome}
      (either : Unended w (l ++ [.ended w x]) ∨ Through w y outcome (l ++ [.ended w x])) :
      y = x ∧ Told w x outcome l :=
    through_concat.1 (either.resolve_left not_unended_concat)
  cases there? with
  | none => exact absurd accords (List.append_ne_nil_of_right_ne_nil l nofun)
  | some there =>
    cases there with
    | running y task limit =>
      cases task with
      | other task => exact absurd accords not_unended_concat
      | status =>
        obtain ⟨-, older, qs, rest, -, same, -⟩ := accords
        exact absurd (same ▸ unended_midway older qs) not_unended_concat
    | finished y outcome =>
      obtain ⟨rfl, told⟩ := through accords
      exact ⟨outcome, told, .inl rfl⟩
    | storing y outcome =>
      obtain ⟨rfl, told⟩ := through accords
      exact ⟨outcome, told, .inr rfl⟩
    | parked | draining | looking | holding | counted | exited =>
      exact absurd accords not_unended_concat

/-! ## Steps -/

variable {s next : StatusDesk τ} {e : Event τ} {reply : Procedure.Reply}

@[simp]
theorem server_begun (s : StatusDesk τ) (e : Server.Event (Duty τ)) :
    (s.begun e).server = s.server := by
  unfold begun
  split
  · split <;> rfl
  · rfl

@[simp]
theorem store_begun (s : StatusDesk τ) (e : Server.Event (Duty τ)) :
    (s.begun e).store = s.store := by
  unfold begun
  split
  · split <;> rfl
  · rfl

theorem reporting?_eq_some_iff :
    s.reporting? w = some x ↔
      ∃ limit, s.server.pool.workers[w]? = some (.running x .status limit) := by
  unfold reporting?
  split
  next y limit there =>
    constructor
    · rintro ⟨⟩
      exact ⟨limit, there⟩
    · rintro ⟨limit', same⟩
      cases there.symm.trans same
      rfl
  next other =>
    constructor
    · nofun
    · rintro ⟨limit, there⟩
      exact absurd there (other x limit)

/-- Only the worker that takes a submission up may have a new status report. -/
theorem find?_begun {e : Pool.Event} (other : e.worker? ≠ some w) :
    (s.begun (.work e)).bodies.find? w = s.bodies.find? w := by
  cases e with
  | begin v now =>
    have ne : w ≠ v := fun eq => other (congrArg some eq.symm)
    simp only [begun]
    split
    · exact s.bodies.find?_put_of_ne ne _
    · rfl
  | _ => rfl

theorem find?_begun_self (reporting : s.reporting? w = some x) (now : Instant) :
    (s.begun (.work (.begin w now))).bodies.find? w = some (StatusTask.run x.params) := by
  simp only [begun, reporting]
  exact s.bodies.find?_put_self w _

/-- A status report that gets an answer. -/
theorem answers_of_apply {now : Instant} (happens : s.apply (.answer w reply now) = some next) :
    ∃ x body rest store, s.reporting? w = some x ∧ s.bodies.find? w = some body ∧
      body.ask? s.store now reply = some (rest, store) ∧
      next = { s with store, bodies := s.bodies.put w rest } := by
  simp only [apply] at happens
  split at happens
  next x body reporting there =>
    obtain ⟨⟨rest, store⟩, asked, rfl⟩ := Option.map_eq_some_iff.1 happens
    exact ⟨x, body, rest, store, reporting, there, asked, rfl⟩
  · cases happens

/-- A status report that ends, and with it the body that the worker runs. -/
theorem finishes_of_apply (happens : s.apply (.finish w) = some next) :
    ∃ x last server, s.reporting? w = some x ∧ s.bodies.find? w = some (.done last) ∧
      s.server.apply (.work (.finish w last)) = some server ∧ next = { s with server } := by
  simp only [apply] at happens
  split at happens
  next x last reporting there =>
    obtain ⟨server, ended, rfl⟩ := Option.map_eq_some_iff.1 happens
    exact ⟨x, last, server, reporting, there, ended, rfl⟩
  · cases happens

/-- The server steps by itself. -/
theorem goes_of_apply {e : Server.Event (Duty τ)} (happens : s.apply (.server e) = some next) :
    s.mayGo e ∧ ∃ server, s.server.apply e = some server ∧ next = begun { s with server } e := by
  simp only [apply] at happens
  split at happens
  next free =>
    obtain ⟨server, applied, rfl⟩ := Option.map_eq_some_iff.1 happens
    exact ⟨free, server, applied, rfl⟩
  · cases happens

theorem goes_work {e : Pool.Event} {pool : Pool (Duty τ)} (free : s.mayGo (.work e))
    (kept : e.isWorkerStep = true) (worked : s.server.pool.apply e = some pool) :
    s.apply (.server (.work e)) =
      some (begun { s with server := { s.server with pool } } (.work e)) := by
  simp only [apply, Server.apply, if_pos free, if_pos kept, worked, Option.map_some]

/-- Which notes a step leads to, and when. -/
inductive Makes (s : StatusDesk τ) : Event τ → Note → Prop
  | begins {w : Nat} {now : Instant} {x : Submission} {limit : Duration}
    (counted : s.server.pool.workers[w]? = some (.counted x))
    (start : x.start s.server.pool.registry now = .run .status limit) :
    Makes s (.server (.work (.begin w now))) (.began w x)
  | settles {w : Nat} {x : Submission} {outcome : Outcome}
    (storing : s.server.pool.workers[w]? = some (.storing x outcome)) :
    Makes s (.server (.work (.store w))) (.settled w x outcome)
  | asks {w : Nat} {reply : Procedure.Reply} {now : Instant} {q : Inquiry}
    (asked : s.inquiry? w reply = some q) : Makes s (.answer w reply now) (.asked w q)
  | ends {w : Nat} {x : Submission} (reporting : s.reporting? w = some x) :
    Makes s (.finish w) (.ended w x)
  | changes (store : Store) : Makes s (.change store) (.changed store)

theorem makes_of_mem (mem : n ∈ s.notes e) : s.Makes e n := by
  unfold notes at mem
  split at mem
  · split at mem
    next counted =>
      split at mem
      next start =>
        rw [List.mem_singleton.1 mem]
        exact .begins counted start
      · cases mem
    · cases mem
  · split at mem
    next storing =>
      rw [List.mem_singleton.1 mem]
      exact .settles storing
    · cases mem
  · cases mem
  · obtain ⟨q, asked, rfl⟩ := List.mem_map.1 mem
    exact .asks (Option.mem_toList.1 asked)
  · obtain ⟨x, reporting, rfl⟩ := List.mem_map.1 mem
    exact .ends (Option.mem_toList.1 reporting)
  · rw [List.mem_singleton.1 mem]
    exact .changes _

/-- All that is noted of a step of a worker is noted of that worker. -/
theorem worker_of_notes {e : Pool.Event} (mem : n ∈ s.notes (.server (.work e))) :
    n.worker? = e.worker? := by
  cases makes_of_mem mem <;> rfl

theorem store_of_asked {q : Inquiry} (asked : s.inquiry? w reply = some q) : q.store = s.store := by
  unfold inquiry? at asked
  split at asked
  · cases asked
    rfl
  · cases asked
    rfl
  · cases asked

theorem notes_cases (s : StatusDesk τ) (e : Event τ) : s.notes e = [] ∨ ∃ n, s.notes e = [n] := by
  have toList {α : Type} (o : Option α) (f : α → Note) :
      o.toList.map f = [] ∨ ∃ n, o.toList.map f = [n] := by
    cases o with
    | none => exact .inl rfl
    | some a => exact .inr ⟨f a, rfl⟩
  unfold notes
  split
  · split
    · split
      · exact .inr ⟨_, rfl⟩
      · exact .inl rfl
    · exact .inl rfl
  · split
    · exact .inr ⟨_, rfl⟩
    · exact .inl rfl
  · exact .inl rfl
  · exact toList _ _
  · exact toList _ _
  · exact .inr ⟨_, rfl⟩

/-- A desk accords with what was noted of it. -/
structure Kept (store : Store) (s : StatusDesk τ) (h : List Note) : Prop where
  orderly : s.server.Orderly
  tasks : ∀ name, (name, Duty.status) ∈ s.server.tasks → name = StatusTask.name
  registry : ∀ name, s.server.pool.registry.get? name = some .status → name = StatusTask.name
  current : s.store = storeAfter store h
  accords : ∀ w, Accords w (s.bodies.find? w) (own w h) s.server.pool.workers[w]?
  fits : Run.Always (Fits store) h

theorem kept_create (settings : QueueSettings) (store : Store) :
    Kept store (create settings store : StatusDesk τ) [] where
  orderly := Server.orderly_create settings
  tasks _ mem := nomatch mem
  registry _ known := nomatch known
  current := rfl
  accords _ := rfl
  fits := Run.always_nil

/-- How far a status report has come. -/
theorem Kept.midway (before : Kept store s h) (reporting : s.reporting? w = some x) :
    x.task = StatusTask.name ∧ ∃ older qs rest, s.bodies.find? w = some rest ∧
      own w h = older ++ .began w x :: qs.map (.asked w) ∧ Midway x.params qs rest := by
  obtain ⟨limit, running⟩ := reporting?_eq_some_iff.1 reporting
  have accords := before.accords w
  rwa [running] at accords

theorem Kept.unended (before : Kept store s h) (reporting : s.reporting? w = some x) :
    Unended w (own w h) := by
  obtain ⟨-, older, qs, rest, -, split, -⟩ := before.midway reporting
  exact split ▸ unended_midway older qs

/-- A status report that is at its end has been told how to end. -/
theorem Kept.told (before : Kept store s h) (reporting : s.reporting? w = some x) {last : BodyEnd}
    (done : s.bodies.find? w = some (.done last)) : Told w x (x.outcome last) (own w h) := by
  obtain ⟨named, older, qs, rest, there, split, midway⟩ := before.midway reporting
  cases done.symm.trans there
  exact ⟨named, older, qs, last, split, midway.reports, rfl⟩

/-- A worker that starts a status report has taken up a submission of that name. -/
theorem Kept.name_of_start (before : Kept store s h) {now : Instant} {limit : Duration}
    (start : x.start s.server.pool.registry now = .run .status limit) :
    x.task = StatusTask.name := by
  refine before.registry x.task ?_
  unfold Submission.start at start
  split at start
  · cases start
  next task known =>
    split at start
    · cases start
    · cases start
      exact known

/-- A step of a worker is noted, and leads on from where the worker was. -/
theorem Kept.accords_work (before : Kept store s h) {e : Pool.Event} {pool : Pool (Duty τ)}
    {a b : Worker (Duty τ)} {l : List (Pool.Note (Duty τ))} (kept : e.isWorkerStep = true)
    (free : s.mayGo (.work e)) (was : s.server.pool.workers[w]? = some a)
    (becomes : pool.workers[w]? = some b) (moves : Pool.Moves s.server.pool.registry w e a b l) :
    Accords w ((begun { s with server := { s.server with pool } } (.work e)).bodies.find? w)
      (own w (h ++ s.notes (.server (.work e)))) (some b) := by
  have accords := before.accords w
  rw [was] at accords
  have silent (none : s.notes (.server (.work e)) = []) :
      own w (h ++ s.notes (.server (.work e))) = own w h := by rw [none, List.append_nil]
  cases moves with
  | wake | look | stop | rest | exit | take | count | uncount =>
    rw [silent rfl]
    exact accords
  | @settle x now outcome start =>
    rw [silent (by simp only [notes, was, start])]
    exact .inl accords
  | @run x now task limit start =>
    cases task with
    | other task =>
      rw [silent (by simp only [notes, was, start])]
      exact accords
    | status =>
      have noted : s.notes (.server (.work (.begin w now))) = [.began w x] := by
        simp only [notes, was, start]
      rw [noted, own_concat_self rfl, find?_begun_self (reporting?_eq_some_iff.2 ⟨limit, becomes⟩)]
      exact ⟨before.name_of_start start, own w h, [], _, rfl, rfl, .inl ⟨rfl, rfl⟩⟩
  | finish x task limit last =>
    cases task with
    | other task =>
      rw [silent rfl]
      exact .inl accords
    | status =>
      -- a status report ends by itself, not by a step of the server
      have busy := reporting?_eq_some_iff.2 ⟨limit, was⟩
      simp [mayGo, busy] at free
  | overrun x task limit =>
    rw [silent rfl]
    cases task with
    | other task => exact .inl accords
    | status =>
      obtain ⟨-, older, qs, rest, -, split, -⟩ := accords
      rw [split]
      exact .inl (unended_midway older qs)
  | store x outcome =>
    have noted : s.notes (.server (.work (.store w))) = [.settled w x outcome] := by
      simp only [notes, was]
    rw [noted, own_concat_self rfl]
    exact unended_concat fun _ => nofun
  | lose => cases kept

/-- What is noted of a step fits what was noted before. -/
theorem Kept.fits_step (before : Kept store s h) (happens : s.apply e = some next) :
    Run.Always (Fits store) (h ++ s.notes e) := by
  rcases notes_cases s e with none | ⟨n, one⟩
  · rw [none, List.append_nil]
    exact before.fits
  · rw [one]
    refine before.fits.concat ?_
    have mem : n ∈ s.notes e := one ▸ List.mem_singleton.2 rfl
    cases makes_of_mem mem with
    | changes => trivial
    | @begins w now x limit counted =>
      have accords := before.accords w
      rwa [counted] at accords
    | @asks w reply now q asked =>
      obtain ⟨x, body, rest, store', reporting, -⟩ := answers_of_apply happens
      exact ⟨before.unended reporting, (store_of_asked asked).trans before.current⟩
    | @ends w x reporting =>
      obtain ⟨y, last, server, -, done, -⟩ := finishes_of_apply happens
      exact ⟨before.unended reporting, _, before.told reporting done⟩
    | @settles w x outcome storing =>
      have accords := before.accords w
      rwa [storing] at accords

/-- Whatever the server does by itself, the store is as the others have left it. -/
theorem Kept.current_step (before : Kept store s h) (others : ∀ store, e ≠ .change store)
    (same : next.store = s.store) : next.store = storeAfter store (h ++ s.notes e) := by
  rw [same, before.current, storeAfter_unchanged fun n mem => ?_]
  cases makes_of_mem mem with
  | changes store => exact absurd rfl (others store)
  | begins | settles | asks | ends => rfl

theorem Kept.step_of_change (before : Kept store s h)
    (happens : s.apply (.change store') = some next) :
    Kept store next (h ++ s.notes (.change store')) := by
  have fits := before.fits_step happens
  cases happens
  refine ⟨before.orderly, before.tasks, before.registry, (storeAfter_changed store').symm,
    fun w => ?_, fits⟩
  have silent : own w (h ++ s.notes (.change store')) = own w h := own_concat_of_ne nofun
  rw [silent]
  exact before.accords w

theorem Kept.step_of_answer (before : Kept store s h) {now : Instant}
    (happens : s.apply (.answer w reply now) = some next) :
    Kept store next (h ++ s.notes (.answer w reply now)) := by
  have fits := before.fits_step happens
  obtain ⟨x, body, rest, store', reporting, there, asked, rfl⟩ := answers_of_apply happens
  obtain ⟨named, older, qs, body', same, split, midway⟩ := before.midway reporting
  cases there.symm.trans same
  obtain ⟨rfl, rfl, q, current, ⟨after, rfl⟩, answered, onward⟩ := midway.ask asked
  have noted : s.notes (.answer w reply now) = [.asked w q] := by
    obtain ⟨key, _, fault?⟩ := q
    cases current
    rcases answered with ⟨rfl, rfl⟩ | ⟨cause, rfl, rfl⟩
    · simp [notes, inquiry?, there]
    · simp [notes, inquiry?, there]
  refine ⟨before.orderly, before.tasks, before.registry,
    before.current_step (fun _ => nofun) rfl, fun v => ?_, fits⟩
  rw [noted]
  by_cases own_ : v = w
  · subst own_
    obtain ⟨limit, running⟩ := reporting?_eq_some_iff.1 reporting
    rw [own_concat_self rfl, split, running, s.bodies.find?_put_self]
    exact ⟨named, older, [q], rest, rfl, by simp, onward⟩
  · have ne : (Note.asked w q).worker? ≠ some v := fun eq => own_ (Option.some.inj eq).symm
    rw [own_concat_of_ne ne, s.bodies.find?_put_of_ne own_]
    exact before.accords v

/-- The server changes the state of one worker. -/
theorem apply_work {s : Server (Duty τ)} {e : Pool.Event} {next : Server (Duty τ)}
    (happens : s.apply (.work e) = some next) :
    e.isWorkerStep = true ∧ ∃ pool, s.pool.apply e = some pool ∧ next = { s with pool } := by
  simp only [Server.apply] at happens
  split at happens
  next own =>
    obtain ⟨pool, worked, rfl⟩ := Option.map_eq_some_iff.1 happens
    exact ⟨own, pool, worked, rfl⟩
  · cases happens

theorem Kept.step_of_finish (before : Kept store s h)
    (happens : s.apply (.finish w) = some next) : Kept store next (h ++ s.notes (.finish w)) := by
  have fits := before.fits_step happens
  obtain ⟨x, last, server, reporting, done, ended, rfl⟩ := finishes_of_apply happens
  have orderly := (Server.step_of_apply before.orderly ended).orderly
  obtain ⟨-, pool, worked, rfl⟩ := apply_work ended
  obtain ⟨a, b, l, was, workers, registry, -, moves⟩ := Pool.moves_of_apply worked rfl
  have noted : s.notes (.finish w) = [.ended w x] := by simp [notes, reporting]
  refine ⟨orderly, before.tasks, ?_, before.current_step (fun _ => nofun) rfl, fun v => ?_, fits⟩
  · rw [registry]
    exact before.registry
  · rw [noted, workers]
    by_cases own_ : v = w
    · subst own_
      obtain ⟨limit, running⟩ := reporting?_eq_some_iff.1 reporting
      cases was.symm.trans running
      cases moves
      rw [own_concat_self rfl, List.getElem?_set_self (List.getElem?_eq_some_iff.1 was).1]
      exact .inr (through_concat.2 ⟨rfl, before.told reporting done⟩)
    · have ne : (Note.ended w x).worker? ≠ some v := fun eq => own_ (Option.some.inj eq).symm
      rw [own_concat_of_ne ne, List.getElem?_set_ne (Ne.symm own_)]
      exact before.accords v

theorem Kept.step_of_work (before : Kept store s h) {e : Pool.Event} {pool : Pool (Duty τ)}
    (free : s.mayGo (.work e)) (kept : e.isWorkerStep = true)
    (worked : s.server.pool.apply e = some pool)
    (orderly : ({ s.server with pool } : Server (Duty τ)).Orderly) :
    Kept store (begun { s with server := { s.server with pool } } (.work e))
      (h ++ s.notes (.server (.work e))) := by
  obtain ⟨v, stepped⟩ : ∃ v, e.worker? = some v := by
    cases e <;> first | exact ⟨_, rfl⟩ | cases kept
  obtain ⟨a, b, l, was, workers, registry, -, moves⟩ := Pool.moves_of_apply worked stepped
  have becomes : pool.workers[v]? = some b := by
    rw [workers, List.getElem?_set_self (List.getElem?_eq_some_iff.1 was).1]
  refine ⟨?_, ?_, ?_, before.current_step (fun _ => nofun) (store_begun _ _), fun w => ?_,
    before.fits_step (goes_work free kept worked)⟩
  · rw [server_begun]
    exact orderly
  · rw [server_begun]
    exact before.tasks
  · rw [server_begun]
    change ∀ name, pool.registry.get? name = _ → _
    rw [registry]
    exact before.registry
  · rw [server_begun]
    change Accords w _ _ pool.workers[w]?
    by_cases own_ : w = v
    · subst own_
      rw [becomes]
      exact before.accords_work kept free was becomes moves
    · -- one worker steps, and nothing is noted of the others
      have other : e.worker? ≠ some w := by
        rw [stepped]
        exact fun eq => own_ (Option.some.inj eq).symm
      rw [own_others fun n mem => worker_of_notes mem ▸ other, find?_begun other, workers,
        List.getElem?_set_ne (Ne.symm own_)]
      exact before.accords w

/-- A server that starts has workers of which nothing was noted. -/
theorem Kept.step_of_start (before : Kept store s h) {server : Server (Duty τ)}
    (orderly : server.Orderly) (idle : s.server.phase = .idle) (tasks : server.tasks = s.server.tasks)
    (registry : server.pool.registry = .ofList s.server.tasks)
    (workers : server.pool.workers = List.replicate s.server.settings.workers .parked) :
    Kept store { s with server } h := by
  refine ⟨orderly, ?_, fun name known => ?_, before.current, fun w => ?_, before.fits⟩
  · change ∀ name, (name, Duty.status) ∈ server.tasks → _
    rw [tasks]
    exact before.tasks
  · change server.pool.registry.get? name = some .status at known
    rw [registry, Dict.get?_ofList] at known
    exact before.tasks name (List.mem_reverse.1 (Dict.mem_of_lookupEntry known))
  · have accords := before.accords w
    rw [(before.orderly.idle idle).2, List.getElem?_nil] at accords
    change Accords w _ (own w h) server.pool.workers[w]?
    rw [workers, List.getElem?_replicate, show own w h = [] from accords]
    split
    · exact unended_nil
    · rfl

theorem Kept.step_of_server (before : Kept store s h) {e : Server.Event (Duty τ)}
    (happens : s.apply (.server e) = some next) : Kept store next (h ++ s.notes (.server e)) := by
  obtain ⟨free, server, applied, rfl⟩ := goes_of_apply happens
  have orderly := (Server.step_of_apply before.orderly applied).orderly
  cases Server.passes_of_apply applied with
  | worked kept worked => exact before.step_of_work free kept worked orderly
  | registered name task idle =>
    change Kept store _ (h ++ [])
    rw [List.append_nil]
    refine ⟨orderly, fun other mem => ?_, before.registry, before.current, before.accords,
      before.fits⟩
    rcases List.mem_append.1 mem with old | new
    · exact before.tasks other old
    · cases List.mem_singleton.1 new
      exact of_decide_eq_true free
  | started idle tasks settings registry workers =>
    change Kept store _ (h ++ [])
    rw [List.append_nil]
    exact before.step_of_start orderly idle tasks registry workers
  | kept still tasks settings registry workers =>
    have silent : s.notes (.server e) = [] := by
      rw [List.eq_nil_iff_forall_not_mem]
      intro n mem
      cases makes_of_mem mem <;> exact still _ rfl
    have same : begun { s with server } e = { s with server } := by
      cases e <;> first | rfl | exact absurd rfl (still _)
    rw [same, silent, List.append_nil]
    refine ⟨orderly, ?_, ?_, before.current, fun w => ?_, before.fits⟩
    · change ∀ name, (name, Duty.status) ∈ server.tasks → _
      rw [tasks]
      exact before.tasks
    · change ∀ name, server.pool.registry.get? name = _ → _
      rw [registry]
      exact before.registry
    · change Accords w _ _ server.pool.workers[w]?
      rw [workers]
      exact before.accords w

theorem Kept.step (before : Kept store s h) (happens : s.apply e = some next) :
    Kept store next (h ++ s.notes e) := by
  cases e with
  | server e => exact before.step_of_server happens
  | answer w reply now => exact before.step_of_answer happens
  | finish w => exact before.step_of_finish happens
  | change store' => exact before.step_of_change happens

/-! ## Runs -/

variable {settings : QueueSettings} {events : List (Event τ)}

theorem kept_of_run (run : (create settings store : StatusDesk τ).run? events = some s) :
    Kept store s ((create settings store : StatusDesk τ).history events) :=
  Run.history_induction Kept.step (kept_create settings store) run

end JobNode.Manager.StatusDesk
