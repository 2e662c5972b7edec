import JobNode.Manager.Waiting
import JobNode.Proofs.Manager.Failures

/-!
# What callers that wait are told

A caller that waits goes on as long as its looks find the job pending, and is told what the first
look says that does not.  Its looks save nothing, so the traffic goes on as if nobody waited, and each
look finds the last version of the record.

* `Look.turn_cases`: one look either finds the job pending or decides.
* `Waiter.Accords`: how far a caller has come accords with what its looks have found.
* `Waiting.kept_of_run`: this, and what the looks find, along every run.
* `Waiting.waits_until_decisive`: what callers are told, and what they are told of new jobs that fail.
-/

namespace JobNode.Manager

open Procedure (Exchange saves)

/-! ## Looks -/

/-- What one look comes to. -/
inductive Look where
  | found (job : Job)
  /-- The store has no such job. -/
  | missing
  /-- The store fails. -/
  | failed (cause : Error)

namespace Look

/-- What a look comes to with an answer of the store. -/
def ofReply? (m : Memory) (key : JobKey) : Procedure.Reply → Option Look
  | .served =>
    match m.get? key with
    | some job => some (found job)
    | none => some missing
  | .failed cause => some (failed cause)
  | _ => none

/-- The look finds the job pending. -/
def isPending : Look → Bool
  | found job => job.status = .pending
  | _ => false

/-- What the caller is told after a look: an error as it is, and else what the record says, unless it
is pending. -/
def Decides (key : JobKey) : Look → Except Error Unit → Prop
  | found job, answer =>
    job.status = .success ∧ answer = .ok () ∨
      job.status = .failed ∧ answer = .error (.jobFailed key.id.toText job.lastMessage)
  | missing, answer => answer = .error (Store.missing key)
  | failed cause, answer => answer = .error cause

/-- The status report that the look gives. -/
def seen (key : JobKey) : Look → Except Error StatusReport
  | found job => .ok job.statusReport
  | missing => .error (Store.missing key)
  | failed cause => .error cause

variable {key : JobKey} {l : Look} {answer other : Except Error Unit}

theorem not_pending_of_decides (decides : l.Decides key answer) : l.isPending = false := by
  cases l with
  | found job =>
    rcases decides with ⟨status, -⟩ | ⟨status, -⟩ <;> simp [isPending, status]
  | missing => rfl
  | failed cause => rfl

theorem Decides.unique (first : l.Decides key answer) (second : l.Decides key other) :
    answer = other := by
  cases l with
  | found job =>
    rcases first with ⟨status, rfl⟩ | ⟨status, rfl⟩
    · rcases second with ⟨-, rfl⟩ | ⟨status', -⟩
      · rfl
      · cases status.symm.trans status'
    · rcases second with ⟨status', -⟩ | ⟨-, rfl⟩
      · cases status.symm.trans status'
      · rfl
  | missing => exact first.trans second.symm
  | failed cause => exact first.trans second.symm

/-- The caller pauses after a look that finds the job pending, and has its answer after any other. -/
theorem turn_cases (key : JobKey) (l : Look) :
    (l.isPending ∧ Waiter.turn key (.done (l.seen key)) = .pausing) ∨
      ∃ answer, Waiter.turn key (.done (l.seen key)) = .answered answer ∧ l.Decides key answer := by
  cases l with
  | missing => exact .inr ⟨_, rfl, rfl⟩
  | failed cause => exact .inr ⟨_, rfl, rfl⟩
  | found job =>
    have report : job.statusReport.status = job.status := rfl
    cases status : job.status with
    | pending =>
      refine .inl ⟨by simp [isPending, status], ?_⟩
      simp only [seen, Waiter.turn, waitAnswer?, report, status]
    | success =>
      refine .inr ⟨.ok (), ?_, .inl ⟨status, rfl⟩⟩
      simp only [seen, Waiter.turn, waitAnswer?, report, status]
    | failed =>
      refine .inr ⟨.error (.jobFailed key.id.toText job.lastMessage), ?_, .inr ⟨status, rfl⟩⟩
      simp only [seen, Waiter.turn, waitAnswer?, report, status]
      rfl

end Look

/-! ## Callers -/

namespace Waiter

/-- How far a caller has come accords with what its looks have found: it goes on as long as they find
the job pending, and has its answer from the last one. -/
def Accords (x : Waiter) (looks : List Look) : Prop :=
  match x.watch with
  | .looking rest => rest = getStatus x.key ∧ ∀ l ∈ looks, l.isPending
  | .pausing => ∀ l ∈ looks, l.isPending
  | .answered answer =>
    ∃ past last, looks = past ++ [last] ∧ (∀ l ∈ past, l.isPending) ∧ last.Decides x.key answer

variable {x y : Waiter} {m m' : Memory} {reply : Procedure.Reply} {looks : List Look}

theorem accords_create (key : JobKey) : (create key).Accords [] :=
  ⟨rfl, fun _ mem => nomatch mem⟩

/-- A look saves nothing, and what it comes to is all that the caller goes by. -/
theorem Accords.look (accords : x.Accords looks) (happens : x.look? m reply = some (y, m')) :
    m' = m ∧ y.key = x.key ∧
      ∃ l, Look.ofReply? m x.key reply = some l ∧ y.Accords (looks ++ [l]) := by
  unfold look? at happens
  split at happens
  next rest watch =>
    simp only [Accords, watch] at accords
    obtain ⟨rfl, pending⟩ := accords
    obtain ⟨⟨left, m''⟩, moved, eq⟩ := Option.map_eq_some_iff.1 happens
    have came : ∃ l, Look.ofReply? m x.key reply = some l ∧ left = .done (l.seen x.key) ∧
        m'' = m := by
      cases reply with
      | served =>
        cases at_ : m.get? x.key with
        | some job =>
          simp only [getStatus, Procedure.advance?, Store.get, at_] at moved
          cases moved
          exact ⟨.found job, by simp [Look.ofReply?, at_], rfl, rfl⟩
        | none =>
          simp only [getStatus, Procedure.advance?, Store.get, at_] at moved
          cases moved
          exact ⟨.missing, by simp [Look.ofReply?, at_], rfl, rfl⟩
      | failed cause =>
        cases moved
        exact ⟨.failed cause, rfl, rfl, rfl⟩
      | time t => cases moved
      | identifier id => cases moved
    obtain ⟨l, found, rfl, rfl⟩ := came
    cases eq
    refine ⟨rfl, rfl, l, found, ?_⟩
    rcases l.turn_cases x.key with ⟨still, turn⟩ | ⟨answer, turn, decides⟩
    · simp only [Accords, turn]
      intro other mem
      rcases List.mem_append.1 mem with old | new
      · exact pending other old
      · rw [List.mem_singleton.1 new]
        exact still
    · simp only [Accords, turn]
      exact ⟨looks, l, rfl, pending, decides⟩
  · cases happens

theorem Accords.wake (accords : x.Accords looks) (happens : x.wake? = some y) :
    y.key = x.key ∧ y.Accords looks := by
  unfold wake? at happens
  split at happens
  next watch =>
    cases happens
    simp only [Accords, watch] at accords
    exact ⟨rfl, rfl, accords⟩
  · cases happens

end Waiter

/-! ## Runs -/

namespace Waiting

/-- What an observer notes of a manager and the callers that wait. -/
inductive Mark where
  | traffic (mark : Traffic.Mark)
  /-- A look of a caller that waits for the job under a key has come to its end. -/
  | looked (w : Nat) (key : JobKey) (l : Look)

/-- What an observer notes of a step. -/
def marks (s : Waiting) : Event → List Mark
  | .traffic e => (s.traffic.marks e).map .traffic
  | .look w reply =>
    match s.waiters[w]? with
    | some x => ((Look.ofReply? s.traffic.memory x.key reply).map (.looked w x.key)).toList
    | none => []
  | _ => []

/-- The state after steps; none if one of them cannot happen. -/
def run? (s : Waiting) (events : List Event) : Option Waiting := Run.last? apply s events

/-- What is noted of the steps. -/
def history (s : Waiting) (events : List Event) : List Mark := Run.history apply marks s events

/-- The step of the manager, if it is one. -/
def Event.traffic? : Event → Option Traffic.Event
  | traffic e => some e
  | _ => none

/-- What was noted of the manager. -/
def Mark.traffic? : Mark → Option Traffic.Mark
  | traffic mark => some mark
  | _ => none

/-- What the look has come to, if it was one of the caller. -/
def Mark.look? (w : Nat) : Mark → Option Look
  | looked v _ l => if v = w then some l else none
  | _ => none

/-- The steps of the manager. -/
def trafficEvents (events : List Event) : List Traffic.Event := events.filterMap Event.traffic?

/-- What was noted of the manager. -/
def trafficMarks (h : List Mark) : List Traffic.Mark := h.filterMap Mark.traffic?

/-- What the looks of a caller have come to. -/
def looks (w : Nat) (h : List Mark) : List Look := h.filterMap (Mark.look? w)

variable {m : Memory} {n : Nat} {events : List Event} {s next : Waiting} {e : Event}
variable {h k past later : List Mark} {w v : Nat}

@[simp]
theorem trafficMarks_append : trafficMarks (h ++ k) = trafficMarks h ++ trafficMarks k :=
  List.filterMap_append

theorem trafficMarks_cons (mark : Traffic.Mark) :
    trafficMarks (.traffic mark :: h) = mark :: trafficMarks h := rfl

theorem trafficMarks_looked (key : JobKey) (l : Look) :
    trafficMarks (.looked w key l :: h) = trafficMarks h := rfl

@[simp]
theorem looks_append : looks w (h ++ k) = looks w h ++ looks w k := List.filterMap_append

@[simp]
theorem trafficMarks_traffic (marks : List Traffic.Mark) :
    trafficMarks (marks.map .traffic) = marks := by
  simp [trafficMarks, Mark.traffic?, List.filterMap_map, Function.comp_def]

@[simp]
theorem looks_traffic (marks : List Traffic.Mark) : looks w (marks.map .traffic) = [] := by
  simp [looks, Mark.look?]

/-- A look finds the last version of the record, and no job only where there has been none. -/
def Finds (m : Memory) (past : List Mark) : Mark → Prop
  | .looked _ key (.found job) =>
    (Traffic.versions m key (trafficMarks past)).getLast? = some job
  | .looked _ key .missing => Traffic.versions m key (trafficMarks past) = []
  | _ => True

/-- The manager goes on as if nobody waited, and each caller goes by what its looks have come to. -/
structure Kept (m : Memory) (n : Nat) (s : Waiting) (events : List Event) (h : List Mark) :
    Prop where
  run : (Traffic.create m n).run? (trafficEvents events) = some s.traffic
  history : (Traffic.create m n).history (trafficEvents events) = trafficMarks h
  waiters : ∀ (w : Nat) (x : Waiter), s.waiters[w]? = some x → x.Accords (looks w h)
  idle : ∀ w, s.waiters.length ≤ w → looks w h = []
  keys : ∀ w key l, .looked w key l ∈ h → ∃ x, s.waiters[w]? = some x ∧ x.key = key
  finds : Run.Always (Finds m) h

theorem trafficEvents_concat (e : Event) :
    trafficEvents (events ++ [e]) = trafficEvents events ++ e.traffic?.toList := by
  rw [trafficEvents, List.filterMap_append]
  cases e <;> rfl

theorem looks_looked_self (key : JobKey) (l : Look) : looks w [.looked w key l] = [l] := by
  simp [looks, Mark.look?]

/-- What a look comes to is what the store has at that time. -/
theorem finds_of_reply (before : Kept m n s events h) {key : JobKey} {reply : Procedure.Reply}
    {l : Look} (found : Look.ofReply? s.traffic.memory key reply = some l) :
    Finds m h (.looked w key l) := by
  have stored := Traffic.stored_of_run before.run
  have last := stored.get?_eq key
  rw [before.history] at last
  cases reply with
  | served =>
    cases at_ : s.traffic.memory.get? key with
    | some job =>
      simp only [Look.ofReply?, at_, Option.some.injEq] at found
      subst found
      exact last.symm.trans at_
    | none =>
      simp only [Look.ofReply?, at_, Option.some.injEq] at found
      subst found
      exact List.getLast?_eq_none_iff.1 (last.symm.trans at_)
  | failed cause =>
    cases found
    trivial
  | time t => cases found
  | identifier id => cases found

/-- The manager takes a step as if nobody waited, and the callers are told nothing. -/
theorem Kept.traffic {t : Traffic} {e : Traffic.Event} (before : Kept m n s events h)
    (moved : s.traffic.apply e = some t) :
    Kept m n { s with traffic := t } (events ++ [.traffic e])
      (h ++ (s.traffic.marks e).map .traffic) where
  run := by
    rw [trafficEvents_concat, Traffic.run?, Run.last?_append before.run]
    simp only [Event.traffic?, Option.toList_some, Run.last?, moved]
  history := by
    rw [trafficEvents_concat, Traffic.history, Run.history_append before.run, trafficMarks_append,
      trafficMarks_traffic, ← before.history]
    simp only [Event.traffic?, Option.toList_some, Run.history, moved, List.append_nil]
    rfl
  waiters w x at_ := by
    rw [looks_append, looks_traffic, List.append_nil]
    exact before.waiters w x at_
  idle w out := by
    rw [looks_append, looks_traffic, List.append_nil]
    exact before.idle w out
  keys w key l mem := by
    rcases List.mem_append.1 mem with old | new
    · exact before.keys w key l old
    · simp at new
  finds := before.finds.append fun past mark later split => by
    have mem : mark ∈ (s.traffic.marks e).map .traffic := split ▸ List.mem_append_right _ (.head _)
    obtain ⟨noted, -, rfl⟩ := List.mem_map.1 mem
    trivial

/-- The manager stays as it is while a caller takes a step. -/
theorem Kept.aside (before : Kept m n s events h) (other : e.traffic? = none)
    (silent : trafficMarks k = []) :
    (Traffic.create m n).run? (trafficEvents (events ++ [e])) = some s.traffic ∧
      (Traffic.create m n).history (trafficEvents (events ++ [e])) = trafficMarks (h ++ k) := by
  rw [trafficEvents_concat, other, trafficMarks_append, silent, Option.toList_none,
    List.append_nil, List.append_nil]
  exact ⟨before.run, before.history⟩

theorem Kept.wait (before : Kept m n s events h) (key : JobKey) :
    Kept m n { s with waiters := s.waiters ++ [.create key] } (events ++ [.wait key]) (h ++ []) := by
  obtain ⟨run, history⟩ := before.aside (e := .wait key) (k := []) rfl rfl
  rw [List.append_nil] at history ⊢
  refine ⟨run, history, fun w x at_ => ?_, fun w out => ?_, fun w own l mem => ?_, before.finds⟩
  · rcases Traffic.of_getElem?_concat at_ with old | ⟨rfl, rfl⟩
    · exact before.waiters w x old
    · rw [before.idle _ (Nat.le_refl _)]
      exact Waiter.accords_create key
  · rw [List.length_append] at out
    exact before.idle w (by omega)
  · obtain ⟨x, at_, same⟩ := before.keys w own l mem
    have inRange := (List.getElem?_eq_some_iff.1 at_).1
    exact ⟨x, by rw [List.getElem?_append_left inRange]; exact at_, same⟩

/-- One caller goes on, and the others stay where they are. -/
theorem Kept.set {x y : Waiter} (before : Kept m n s events h) (at_ : s.waiters[w]? = some x)
    (key : y.key = x.key) (other : e.traffic? = none) (accords : y.Accords (looks w (h ++ k)))
    (looked : ∀ mark ∈ k, ∃ l, mark = .looked w x.key l ∧ Finds m h mark) (one : k.length ≤ 1) :
    Kept m n { s with waiters := s.waiters.set w y } (events ++ [e]) (h ++ k) := by
  have inRange := (List.getElem?_eq_some_iff.1 at_).1
  have silent : trafficMarks k = [] := by
    refine List.filterMap_eq_nil_iff.2 fun mark mem => ?_
    obtain ⟨l, rfl, -⟩ := looked mark mem
    rfl
  have apart {v : Nat} (ne : w ≠ v) : looks v k = [] := by
    refine List.filterMap_eq_nil_iff.2 fun mark mem => ?_
    obtain ⟨l, rfl, -⟩ := looked mark mem
    exact if_neg ne
  obtain ⟨run, history⟩ := before.aside (e := e) (k := k) other silent
  refine ⟨run, history, fun v z found => ?_, fun v out => ?_, fun v own l mem => ?_, ?_⟩
  · by_cases same : w = v
    · subst same
      simp only [List.getElem?_set_self inRange, Option.some.injEq] at found
      subst found
      exact accords
    · simp only [List.getElem?_set_ne same] at found
      rw [looks_append, apart same, List.append_nil]
      exact before.waiters v z found
  · rw [List.length_set] at out
    rw [looks_append, apart (by omega), List.append_nil]
    exact before.idle v out
  · have old : (∃ z, s.waiters[v]? = some z ∧ z.key = own) := by
      rcases List.mem_append.1 mem with there | new
      · exact before.keys v own l there
      · obtain ⟨l', eq, -⟩ := looked _ new
        cases eq
        exact ⟨x, at_, rfl⟩
    obtain ⟨z, there, same⟩ := old
    by_cases this : w = v
    · subst this
      cases at_.symm.trans there
      exact ⟨y, List.getElem?_set_self inRange, key.trans same⟩
    · exact ⟨z, (List.getElem?_set_ne this).trans there, same⟩
  · refine before.finds.append fun past mark later split => ?_
    have mem : mark ∈ k := split ▸ List.mem_append_right _ (.head _)
    have first : past = [] := by
      have length := congrArg List.length split
      rw [List.length_append, List.length_cons] at length
      exact List.eq_nil_of_length_eq_zero (by omega)
    rw [first, List.append_nil]
    obtain ⟨l, -, finds⟩ := looked mark mem
    exact finds

theorem Kept.step (before : Kept m n s events h) (happens : s.apply e = some next) :
    Kept m n next (events ++ [e]) (h ++ s.marks e) := by
  cases e with
  | traffic e =>
    obtain ⟨t, moved, rfl⟩ := Option.map_eq_some_iff.1 happens
    exact before.traffic moved
  | wait key =>
    cases happens
    exact before.wait key
  | look w reply =>
    simp only [apply] at happens
    split at happens
    next x at_ =>
      obtain ⟨⟨y, memory⟩, moved, rfl⟩ := Option.map_eq_some_iff.1 happens
      obtain ⟨rfl, key, l, found, accords⟩ := (before.waiters w x at_).look moved
      have noted : s.marks (.look w reply) = [.looked w x.key l] := by
        simp only [marks, at_, found, Option.map_some, Option.toList_some]
      rw [noted]
      refine before.set at_ key rfl ?_ (fun mark mem => ?_) (Nat.le_refl 1)
      · rw [looks_append, looks_looked_self]
        exact accords
      · cases List.mem_singleton.1 mem
        exact ⟨l, rfl, finds_of_reply before found⟩
    · cases happens
  | wake w =>
    simp only [apply] at happens
    split at happens
    next x at_ =>
      obtain ⟨y, woken, rfl⟩ := Option.map_eq_some_iff.1 happens
      obtain ⟨key, accords⟩ := (before.waiters w x at_).wake woken
      refine before.set at_ key rfl ?_ (fun mark mem => nomatch mem) (Nat.zero_le 1)
      change y.Accords (looks w (h ++ []))
      rw [List.append_nil]
      exact accords
    · cases happens

theorem kept_of_run (run : (create m n).run? events = some s) :
    Kept m n s events ((create m n).history events) := by
  have start : Kept m n (create m n) [] [] :=
    { run := rfl
      history := rfl
      waiters := fun _ _ at_ => nomatch at_
      idle := fun _ _ => rfl
      keys := fun _ _ _ mem => nomatch mem
      finds := Run.always_nil }
  exact Run.steps_induction (fun before happens => before.step happens) start run

/-! ## Answers -/

/-- A caller one of whose looks has decided has its answer from that look. -/
theorem watch_of_decides {x : Waiter} {found : List Look} {l : Look} {answer : Except Error Unit}
    (accords : x.Accords found) (mem : l ∈ found) (decides : l.Decides x.key answer) :
    x.watch = .answered answer := by
  have decisive : ¬ ∀ l ∈ found, l.isPending := fun pending => by
    have still := pending l mem
    rw [Look.not_pending_of_decides decides] at still
    cases still
  cases watch : x.watch with
  | looking rest =>
    simp only [Waiter.Accords, watch] at accords
    exact absurd accords.2 decisive
  | pausing =>
    simp only [Waiter.Accords, watch] at accords
    exact absurd accords decisive
  | answered answer' =>
    simp only [Waiter.Accords, watch] at accords
    obtain ⟨past, last, rfl, pending, decides'⟩ := accords
    -- only the last look of a caller may find the job no longer pending
    rcases List.mem_append.1 mem with early | late
    · have still := pending l early
      rw [Look.not_pending_of_decides decides] at still
      cases still
    · cases List.mem_singleton.1 late
      rw [decides.unique decides']

/-- A caller has its answer from the first look that does not find the job pending. -/
theorem answered_iff {x : Waiter} {found : List Look} (accords : x.Accords found)
    (answer : Except Error Unit) :
    x.watch = .answered answer ↔ ∃ past last, found = past ++ [last] ∧
      (∀ l ∈ past, l.isPending) ∧ last.Decides x.key answer := by
  constructor
  · intro watch
    simpa only [Waiter.Accords, watch] using accords
  · rintro ⟨past, last, rfl, -, decides⟩
    exact watch_of_decides accords (List.mem_append_right _ (.head _)) decides

/-- A caller that has no answer can go on, and one that has an answer is done. -/
theorem goes_on {x : Waiter} {found : List Look} (at_ : s.waiters[w]? = some x)
    (accords : x.Accords found) :
    ((∃ answer, x.watch = .answered answer) ∧ (∀ reply, s.apply (.look w reply) = none) ∧
        s.apply (.wake w) = none) ∨
      (∀ l ∈ found, l.isPending) ∧
        ((s.apply (.look w .served)).isSome ∨ (s.apply (.wake w)).isSome) := by
  cases watch : x.watch with
  | answered answer =>
    refine .inl ⟨⟨answer, rfl⟩, fun reply => ?_, ?_⟩
    · simp only [apply, at_, Waiter.look?, watch, Option.map_none]
    · simp only [apply, at_, Waiter.wake?, watch, Option.map_none]
  | pausing =>
    simp only [Waiter.Accords, watch] at accords
    refine .inr ⟨accords, .inr ?_⟩
    simp only [apply, at_, Waiter.wake?, watch, Option.map_some, Option.isSome_some]
  | looking rest =>
    simp only [Waiter.Accords, watch] at accords
    obtain ⟨rfl, pending⟩ := accords
    refine .inr ⟨pending, .inl ?_⟩
    simp only [apply, at_, Waiter.look?, watch, getStatus, Procedure.advance?, Option.map_some,
      Option.isSome_some]

/-- The error says which job has failed, and how. -/
def TellsOf (a : Assignment) (text : String) (e : Error) : Prop :=
  e = .jobFailed a.id.toText ("manager[" ++ a.description ++ "] " ++ text) ∧
    ("manager[" ++ a.description ++ "]").toList <:+: e.message.toList ∧
    text.toList <:+: e.message.toList

theorem infix_append (front part back : String) :
    part.toList <:+: (front ++ part ++ back).toList :=
  ⟨front.toList, back.toList, by rw [String.toList_append, String.toList_append]⟩

theorem tellsOf_jobFailed (a : Assignment) (text : String) :
    TellsOf a text (.jobFailed a.id.toText ("manager[" ++ a.description ++ "] " ++ text)) := by
  have message : (Error.jobFailed a.id.toText ("manager[" ++ a.description ++ "] " ++ text)).message =
      "job " ++ a.id.toText ++ " failed: " ++ ("manager[" ++ a.description ++ "] " ++ text) := rfl
  have bracket : "] " = "]" ++ " " := by decide
  refine ⟨rfl, ?_, ?_⟩
  · have parts := infix_append ("job " ++ a.id.toText ++ " failed: ")
      ("manager[" ++ a.description ++ "]") (" " ++ text)
    rw [message, bracket]
    simpa only [String.append_assoc] using parts
  · have parts := infix_append
      ("job " ++ a.id.toText ++ " failed: " ++ ("manager[" ++ a.description ++ "] ")) text ""
    rw [message, ← String.append_assoc]
    simpa only [String.append_empty] using parts

/-- A look after a record was saved finds this one, as long as no other has been saved for the job,
unless the store fails. -/
theorem found_of_saved (kept : Kept m n s events h) {i : Nat} {key : JobKey} {job : Job}
    {since : List Mark} {l : Look}
    (split : h = past ++ .traffic (.execution i (.exchanged (.saved job))) ::
      (since ++ .looked w key l :: later))
    (own : job.key = key)
    (alone : ∀ other ∈ saves (Traffic.allExchanges (trafficMarks since)), other.key ≠ key)
    (served : ∀ cause, l ≠ .failed cause) : l = .found job := by
  have finds : Finds m (past ++ .traffic (.execution i (.exchanged (.saved job))) :: since)
      (.looked w key l) := by
    refine kept.finds _ _ later ?_
    rw [split]
    simp
  have last : Traffic.versions m key (trafficMarks
      (past ++ .traffic (.execution i (.exchanged (.saved job))) :: since)) =
        Traffic.versions m key (trafficMarks past) ++ [job] := by
    have quiet : (saves (Traffic.allExchanges (trafficMarks since))).filter (·.key = key) = [] :=
      List.filter_eq_nil_iff.2 fun other mem => by simpa using alone other mem
    have noted : trafficMarks (past ++ .traffic (.execution i (.exchanged (.saved job))) :: since) =
        (trafficMarks past ++ [.execution i (.exchanged (.saved job))]) ++ trafficMarks since := by
      rw [trafficMarks_append, trafficMarks_cons, List.append_assoc]
      rfl
    rw [noted, Traffic.versions_append, quiet, List.append_nil, Traffic.versions_of_saved rfl own]
  cases l with
  | found other =>
    have there : _ = some other := finds
    rw [last, List.getLast?_concat, Option.some.injEq] at there
    rw [there]
  | missing =>
    have none : _ = [] := finds
    rw [last] at none
    simp at none
  | failed cause => exact absurd rfl (served cause)

/-- A look at a new job whose work has failed, after its finalizer has saved the record and as long as
nobody else has. -/
theorem told_of_failure (run : (create m n).run? events = some s)
    (ids : Traffic.NewIds m (trafficEvents events)) {i : Nat} {a : Assignment} {text : String}
    {job : Job} {since : List Mark} {l : Look}
    (split : (create m n).history events =
      past ++ .traffic (.execution i (.exchanged (.saved job))) ::
        (since ++ .looked w a.key l :: later))
    (chose : .traffic (.execution i (.chose a (.completion (.error text)))) ∈ past)
    (created : a.created = true)
    (alone : ∀ other ∈ saves (Traffic.allExchanges (trafficMarks since)), other.key ≠ a.key)
    (served : ∀ cause, l ≠ .failed cause) :
    (∃ x, s.traffic.executions[i]? = some x ∧ a.description = x.request.description) ∧
      ∃ e, s.waiters[w]? = some ⟨a.key, .answered (.error e)⟩ ∧ TellsOf a text e := by
  have kept := kept_of_run run
  have history : (Traffic.create m n).history (trafficEvents events) =
      trafficMarks past ++ .execution i (.exchanged (.saved job)) ::
        (trafficMarks since ++ trafficMarks later) := by
    rw [kept.history, split, trafficMarks_append, trafficMarks_cons, trafficMarks_append,
      trafficMarks_looked]
  have chose' : .execution i (.chose a (.completion (.error text))) ∈ trafficMarks past :=
    List.mem_filterMap.2 ⟨_, chose, rfl⟩
  obtain ⟨key, status, message⟩ := Traffic.failed_of_saved kept.run ids history chose' created
  obtain rfl := found_of_saved kept split key alone served
  have mem : .looked w a.key (.found job) ∈ (create m n).history events := by
    rw [split]
    simp
  obtain ⟨⟨own, watch⟩, at_, rfl⟩ := kept.keys w a.key _ mem
  have looked : Look.found job ∈ looks w ((create m n).history events) :=
    List.mem_filterMap.2 ⟨_, mem, if_pos rfl⟩
  have decides : (Look.found job).Decides a.key
      (.error (.jobFailed a.id.toText ("manager[" ++ a.description ++ "] " ++ text))) :=
    .inr ⟨status, by rw [message]; rfl⟩
  obtain rfl := watch_of_decides (kept.waiters w _ at_) looked decides
  have described := Traffic.drawn_of_chose kept.run created (history ▸ List.mem_append_left _ chose')
  exact ⟨described.2, _, at_, tellsOf_jobFailed a text⟩

/-- **A caller that waits is told what the first look says that decides.**  However callers that wait
alternate with a manager, and whichever accesses to the store fail, the manager goes on as if nobody
waited.  A look finds the last version of the record.  A caller has an answer just if the last of its
looks failed or found the job no longer pending, and all others found it pending: the error as it is,
or what the record says.  Until then it can go on, and afterwards it is done.  So whoever looks at a
new job whose work has failed, after its finalizer has saved the record and as long as nobody else
has, is told what the work was and how it failed, unless the store fails. -/
theorem waits_until_decisive (run : (create m n).run? events = some s) :
    let h := (create m n).history events
    ((Traffic.create m n).run? (trafficEvents events) = some s.traffic ∧
      (Traffic.create m n).history (trafficEvents events) = trafficMarks h) ∧
    Run.Always (Finds m) h ∧
    (∀ (w : Nat) (x : Waiter), s.waiters[w]? = some x →
      (∀ key l, .looked w key l ∈ h → key = x.key) ∧
      (∀ answer, x.watch = .answered answer ↔ ∃ past last, looks w h = past ++ [last] ∧
        (∀ l ∈ past, l.isPending) ∧ last.Decides x.key answer) ∧
      ((∃ answer, x.watch = .answered answer) ∧ (∀ reply, s.apply (.look w reply) = none) ∧
          s.apply (.wake w) = none ∨
        (∀ l ∈ looks w h, l.isPending) ∧
          ((s.apply (.look w .served)).isSome ∨ (s.apply (.wake w)).isSome))) ∧
    (Traffic.NewIds m (trafficEvents events) →
      ∀ i a text job past since later w l,
        h = past ++ .traffic (.execution i (.exchanged (.saved job))) ::
          (since ++ .looked w a.key l :: later) →
        .traffic (.execution i (.chose a (.completion (.error text)))) ∈ past →
        a.created = true →
        (∀ other ∈ saves (Traffic.allExchanges (trafficMarks since)), other.key ≠ a.key) →
        (∀ cause, l ≠ .failed cause) →
        (∃ x, s.traffic.executions[i]? = some x ∧ a.description = x.request.description) ∧
          ∃ e, s.waiters[w]? = some ⟨a.key, .answered (.error e)⟩ ∧ TellsOf a text e) := by
  intro h
  have kept := kept_of_run run
  refine ⟨⟨kept.run, kept.history⟩, kept.finds, fun w x at_ => ⟨fun key l mem => ?_, ?_, ?_⟩, ?_⟩
  · obtain ⟨y, there, own⟩ := kept.keys w key l mem
    cases at_.symm.trans there
    exact own.symm
  · exact answered_iff (kept.waiters w x at_)
  · exact goes_on at_ (kept.waiters w x at_)
  · intro ids i a text job past since later w l split chose created alone served
    exact told_of_failure run ids split chose created alone served

/-- A call whose work fails.  One caller looks before the finalizer has saved the record and again
afterwards; the look of another one fails. -/
def sampleWaiting : List Event :=
  let key : JobKey := ⟨sampleAccount, ⟨.ofNat 4⟩⟩
  [.traffic (.request ⟨sampleAccount, none, "demo"⟩),
    .traffic (.execution 0 (.prepare (.identifier ⟨.ofNat 4⟩))),
    .traffic (.execution 0 (.prepare (.time .epoch))),
    .traffic (.execution 0 (.prepare .served)), .traffic (.execution 0 .enter), .wait key,
    .look 0 .served, .traffic (.execution 0 (.endWork (.error "boom"))),
    .traffic (.execution 0 .choose), .traffic (.execution 0 (.finalize .served)), .wait key,
    .look 1 (.failed (.other "down")), .traffic (.execution 0 (.finalize (.time .epoch))),
    .traffic (.execution 0 (.finalize .served)), .wake 0, .look 0 .served]

theorem sampleWaiting_told :
    let a : Assignment := ⟨sampleAccount, ⟨.ofNat 4⟩, "demo", true⟩
    ∃ s e, (create .empty 1).run? sampleWaiting = some s ∧
      s.waiters[0]? = some ⟨a.key, .answered (.error e)⟩ ∧ TellsOf a "boom" e := by
  intro a
  have run : (create .empty 1).run? sampleWaiting = some _ := rfl
  have ids : Traffic.NewIds .empty (trafficEvents sampleWaiting) :=
    ⟨by decide, fun draw mem account => rfl⟩
  obtain ⟨-, -, -, failures⟩ := waits_until_decisive run
  have chose : .traffic (.execution 0 (.chose a (.completion (.error "boom")))) ∈
      ((create .empty 1).history sampleWaiting).take 8 :=
    List.mem_of_getElem? (i := 5) rfl
  obtain ⟨-, e, told, tells⟩ := failures ids 0 a "boom" _
    (((create .empty 1).history sampleWaiting).take 8) [] [] 0 _ rfl chose rfl
    (fun other mem => nomatch mem) (fun cause => nofun)
  exact ⟨_, e, run, told, tells⟩

end Waiting

end JobNode.Manager
