import JobNode.Proofs.Queue.Collector
import JobNode.Proofs.Queue.Slots

/-!
# What collectors are told

A call that collects an outcome registers for announcements, looks at the slot, and sleeps where it
finds nothing.  An outcome may be recorded at any time in between, and is announced some time
later.  What a call that has found nothing has heard tells whether it can still miss the
announcement: unless the outcome is still to be announced, there was an announcement that the call
has not heard (`Collecting.Alarms`), and the call looks again before it sleeps.

* `Collecting.server_of_run`: calls make no difference to the server.
* `Collecting.kept_of_run`: what calls have come to accords with what was recorded and announced.
* `Collecting.ends_of_run`: a call for an outcome that was announced comes to its end.
* `Collecting.reaches_goOn`: a call may go on undisturbed.
* `Collecting.told_one_outcome`: what a call is told beside everything else.
-/

namespace JobNode

/-! ## Slots that are read -/

namespace Deeds

variable {b : Backend} {h : Deeds} {id : TaskId}

/-- What a reader of a slot finds: the outcome, once it has come and as long as the handle lives. -/
theorem Agrees.outcome?_eq (agrees : Agrees b h) (id : TaskId) :
    b.outcome? id = if id ∈ h.dropped then none else (h.outcomesOf id).head? := by
  rw [Backend.outcome?, agrees id, slot?]
  cases h.outcomesOf id <;> by_cases gone : id ∈ h.dropped <;> simp [gone]

theorem Agrees.not_isAbandoned (agrees : Agrees b h) (alive : id ∉ h.dropped) :
    b.isAbandoned id = false := by
  rw [Backend.isAbandoned, agrees id, slot?]
  cases h.outcomesOf id <;> simp [alive]

end Deeds

namespace Server

variable {τ : Type} {s next : Server τ} {h : Deeds} {e : Event τ} {id : TaskId} {outcome : Outcome}

theorem Kept.once (kept : Kept s h) (proper : Run.Always Deeds.Proper h) (id : TaskId) :
    (h.outcomesOf id).length ≤ 1 :=
  Nat.le_trans (kept.account.outcomesOf_length_le id) (Deeds.timesAccepted_le_one proper id)

/-- Whoever finds an outcome finds the only one. -/
theorem Kept.recorded_of_found (kept : Kept s h) (proper : Run.Always Deeds.Proper h)
    (found : s.pool.backend.outcome? id = some outcome) : h.outcomesOf id = [outcome] := by
  have once := kept.once proper id
  rw [(kept.slots proper).outcome?_eq] at found
  split at found
  · cases found
  · cases recorded : h.outcomesOf id with
    | nil => simp [recorded] at found
    | cons first rest =>
      rw [recorded] at found once
      cases found
      rw [List.eq_nil_of_length_eq_zero (Nat.le_zero.1 (Nat.le_of_succ_le_succ once))]

/-- As long as the handle lives, the outcome is found. -/
theorem Kept.found_of_recorded (kept : Kept s h) (proper : Run.Always Deeds.Proper h)
    (alive : id ∉ h.dropped) (recorded : h.outcomesOf id = [outcome]) :
    s.pool.backend.outcome? id = some outcome := by
  rw [(kept.slots proper).outcome?_eq, recorded]
  simp [alive]

theorem Kept.unrecorded_of_not_found (kept : Kept s h) (proper : Run.Always Deeds.Proper h)
    (alive : id ∉ h.dropped) (missing : s.pool.backend.outcome? id = none) :
    h.outcomesOf id = [] := by
  rw [(kept.slots proper).outcome?_eq] at missing
  simpa [alive] using missing

theorem Kept.exists_recorded (kept : Kept s h) (proper : Run.Always Deeds.Proper h)
    (recorded : h.outcomesOf id ≠ []) : ∃ outcome, h.outcomesOf id = [outcome] := by
  obtain ⟨outcome, rest, eq⟩ := List.exists_cons_of_ne_nil recorded
  have once := kept.once proper id
  rw [eq, List.length_cons] at once
  have nothing : rest = [] := List.eq_nil_of_length_eq_zero (by omega)
  rw [nothing] at eq
  exact ⟨outcome, eq⟩

/-- An outcome stays the only one. -/
theorem Kept.recorded_append {k : Deeds} (after : Kept s (h ++ k))
    (proper : Run.Always Deeds.Proper (h ++ k)) (recorded : h.outcomesOf id = [outcome]) :
    Deeds.outcomesOf id (h ++ k) = [outcome] := by
  have once := after.once proper id
  rw [Deeds.outcomesOf_append, recorded, List.length_append, List.length_singleton] at once
  have later : k.outcomesOf id = [] := List.eq_nil_of_length_eq_zero (by omega)
  rw [Deeds.outcomesOf_append, recorded, later, List.append_nil]

/-- An outcome is recorded by one who then has something to announce. -/
theorem recording?_of_settled {t : Taker} {x : Submission}
    (settled : .settled t x outcome ∈ s.deeds e) :
    Collecting.recording? s e = some (t, x.id) := by
  cases does_of_mem settled with
  | closes held =>
    rw [Collecting.recording?, held]
    rfl
  | works does =>
    cases does with
    | stores storing => simp only [Collecting.recording?, storing]

/-- A handle is dropped by its owner only. -/
theorem forget_of_dropped (happens : s.apply e = some next) (gone : .dropped id ∈ s.deeds e) :
    e = .forget id := by
  cases does_of_mem gone with
  | drops id => rfl
  | works does =>
    cases does with
    | drops id => cases happens

end Server

/-! ## Runs -/

namespace Collecting

variable {τ : Type} {s next : Collecting τ} {h : Deeds} {e : Event τ}

/-- What a step does to submissions: collectors do nothing. -/
def deeds (s : Collecting τ) : Event τ → Deeds
  | .server e => s.server.deeds e
  | .announce _ | .pass _ | .collect _ _ _ | .turn _ _ => []

/-- The state after steps; none if one of them cannot happen. -/
def run? (s : Collecting τ) (events : List (Event τ)) : Option (Collecting τ) :=
  Run.last? apply s events

/-- What steps do to submissions. -/
def history (s : Collecting τ) (events : List (Event τ)) : Deeds :=
  Run.history apply deeds s events

/-- The step of the server, if it is one. -/
def Event.server? : Event τ → Option (Server.Event τ)
  | server e => some e
  | announce _ | pass _ | collect _ _ _ | turn _ _ => none

/-- The steps of the server alone. -/
def serverEvents (events : List (Event τ)) : List (Server.Event τ) := events.filterMap Event.server?

/-- The number of turns of one collector. -/
def turns (c : Nat) (events : List (Event τ)) : Nat :=
  events.countP fun
    | .turn d _ => d = c
    | _ => false

/-- What a step can be. -/
theorem apply_cases (happens : s.apply e = some next) :
    (∃ event server, e = .server event ∧ s.mayGo event ∧ s.server.apply event = some server ∧
      next =
        { s with server, unannounced := s.unannounced ++ toAnnounce s.server event }) ∨
    (∃ t, e = .announce t ∧
      next =
        { s with
          announced := s.announced + 1
          unannounced := s.unannounced.filter (·.1 ≠ t) }) ∨
    (∃ span, e = .pass span ∧ next = { s with now := s.now + span }) ∨
    (∃ id limit deadline, e = .collect id limit deadline ∧
      s.now + min limit.nanos longestWait ≤ deadline ∧
      next = { s with collectors := s.collectors ++ [.create id limit deadline] }) ∨
    ∃ c act x stage, e = .turn c act ∧ s.collectors[c]? = some x ∧
      x.turn? s.server.pool.backend s.announced s.now act = some stage ∧
      next = { s with collectors := s.collectors.set c { x with stage } } := by
  cases e with
  | server event =>
    simp only [apply] at happens
    split at happens
    next may =>
      obtain ⟨server, goes, rfl⟩ := Option.map_eq_some_iff.1 happens
      exact .inl ⟨event, server, rfl, may, goes, rfl⟩
    · cases happens
  | announce t =>
    simp only [apply] at happens
    split at happens
    · cases happens
      exact .inr (.inl ⟨t, rfl, rfl⟩)
    · cases happens
  | pass span =>
    cases happens
    exact .inr (.inr (.inl ⟨span, rfl, rfl⟩))
  | collect id limit deadline =>
    simp only [apply] at happens
    split at happens
    next late =>
      cases happens
      exact .inr (.inr (.inr (.inl ⟨id, limit, deadline, rfl, late, rfl⟩)))
    · cases happens
  | turn c act =>
    simp only [apply] at happens
    split at happens
    next x at_ =>
      obtain ⟨stage, goes, rfl⟩ := Option.map_eq_some_iff.1 happens
      exact .inr (.inr (.inr (.inr ⟨c, act, x, stage, rfl, at_, goes, rfl⟩)))
    · cases happens

/-- Collectors make no difference to the server. -/
theorem server_of_run {events : List (Event τ)} {last : Collecting τ}
    (run : s.run? events = some last) :
    s.server.run? (serverEvents events) = some last.server ∧
      s.history events = s.server.history (serverEvents events) := by
  refine @Run.steps_induction _ _ _ apply deeds
    (fun last steps past => s.server.run? (serverEvents steps) = some last.server ∧
      past = s.server.history (serverEvents steps)) ?_ events s last [] [] ⟨rfl, rfl⟩ run
  rintro mid next e steps past ⟨ran, rfl⟩ happens
  have split : serverEvents (steps ++ [e]) = serverEvents steps ++ e.server?.toList := by
    rw [serverEvents, List.filterMap_append]
    cases e <;> rfl
  rw [split]
  have idle (nothing : e.server? = none) (silent : mid.deeds e = [])
      (same : next.server = mid.server) :
      s.server.run? (serverEvents steps ++ e.server?.toList) = some next.server ∧
        s.server.history (serverEvents steps) ++ mid.deeds e =
          s.server.history (serverEvents steps ++ e.server?.toList) := by
    rw [nothing, silent, same, Option.toList_none, List.append_nil, List.append_nil]
    exact ⟨ran, rfl⟩
  rcases apply_cases happens with
    ⟨event, server, rfl, -, goes, rfl⟩ | ⟨t, rfl, rfl⟩ | ⟨span, rfl, rfl⟩ |
      ⟨id, limit, deadline, rfl, -, rfl⟩ | ⟨c, act, x, stage, rfl, -, -, rfl⟩
  · constructor
    · rw [Server.run?, Run.last?_append ran]
      simp only [Event.server?, Option.toList_some, Run.last?, goes]
    · have noted := @Run.history_append _ _ _ Server.apply Server.deeds _ _ _ ran [event]
      simp only [Run.history, goes, List.append_nil] at noted
      exact noted.symm
  · exact idle rfl rfl rfl
  · exact idle rfl rfl rfl
  · exact idle rfl rfl rfl
  · exact idle rfl rfl rfl

/-! ## What is kept -/

/-- An outcome that was recorded up to now is still to be announced, or a collector has not heard
all announcements. -/
def Alarms (s : Collecting τ) (h : Deeds) (id : TaskId) (heard : Nat) : Prop :=
  h.outcomesOf id ≠ [] → id ∉ h.dropped → (∃ t, (t, id) ∈ s.unannounced) ∨ heard < s.announced

/-- What a collector has come to accords with what was recorded and announced. -/
def Accords (s : Collecting τ) (h : Deeds) (x : Collector) : Prop :=
  match x.stage with
  | .entering | .left => True
  | .registered heard => heard ≤ s.announced
  | .missed heard | .unheard heard | .asleep heard => heard ≤ s.announced ∧ s.Alarms h x.id heard
  | .answered answer => h.outcomesOf x.id = [answer] ∨ answer = x.timeout ∧ x.deadline ≤ s.now

/-- What others do does not spoil it. -/
theorem Accords.later {x : Collector} {past : Deeds} (accords : s.Accords past x)
    (announced : s.announced ≤ next.announced) (now : s.now ≤ next.now)
    (recorded : ∀ outcome, past.outcomesOf x.id = [outcome] → h.outcomesOf x.id = [outcome])
    (alarms : ∀ heard ≤ s.announced, s.Alarms past x.id heard → next.Alarms h x.id heard) :
    next.Accords h x := by
  unfold Accords at accords ⊢
  split at accords
  · trivial
  · trivial
  · exact Nat.le_trans accords announced
  · exact ⟨Nat.le_trans accords.1 announced, alarms _ accords.1 accords.2⟩
  · exact ⟨Nat.le_trans accords.1 announced, alarms _ accords.1 accords.2⟩
  · exact ⟨Nat.le_trans accords.1 announced, alarms _ accords.1 accords.2⟩
  · rcases accords with told | ⟨timeout, late⟩
    · exact .inl (recorded _ told)
    · exact .inr ⟨timeout, Nat.le_trans late now⟩

/-- An outcome that is recorded while the handle lives is still to be announced. -/
theorem alarms_of_recorded {event : Server.Event τ} {server : Server τ} {id : TaskId} {heard : Nat}
    (kept : s.server.Kept h) (proper : Run.Always Deeds.Proper h)
    (before : s.Alarms h id heard) :
    Alarms { s with server, unannounced := s.unannounced ++ toAnnounce s.server event }
      (h ++ s.server.deeds event) id heard := by
  intro recorded alive
  have undropped : id ∉ h.dropped := by
    intro gone
    rw [Deeds.dropped_append, List.mem_append] at alive
    exact alive (.inl gone)
  by_cases old : h.outcomesOf id = []
  · rw [Deeds.outcomesOf_append, old, List.nil_append] at recorded
    obtain ⟨outcome, mem⟩ := List.exists_mem_of_ne_nil _ recorded
    obtain ⟨t, x, settled, rfl⟩ := Deeds.mem_outcomesOf.1 mem
    refine .inl ⟨t, List.mem_append_right _ (List.mem_filter.2 ⟨?_, ?_⟩)⟩
    · rw [Server.recording?_of_settled (Deeds.mem_settlements.1 settled)]
      exact List.mem_singleton.2 rfl
    · rw [(kept.slots proper).not_isAbandoned undropped]
      rfl
  · rcases before old undropped with ⟨t, waiting⟩ | heard
    · exact .inl ⟨t, List.mem_append_left _ waiting⟩
    · exact .inr heard

/-- A turn of a collector accords with what it finds. -/
theorem Accords.turn {x : Collector} {act : Collector.Act} {stage : Collector.Stage}
    (accords : s.Accords h x) (kept : s.server.Kept h) (proper : Run.Always Deeds.Proper h)
    (goes : x.turn? s.server.pool.backend s.announced s.now act = some stage) :
    s.Accords h { x with stage } := by
  have moves := Collector.moves_of_turn goes
  generalize at_ : x.stage = before at moves
  unfold Accords at accords
  rw [at_] at accords
  cases moves with
  | enter => exact Nat.le_refl _
  | find heard found => exact .inl (kept.recorded_of_found proper found)
  | miss heard missing =>
    refine ⟨accords, fun recorded alive => ?_⟩
    exact absurd (kept.unrecorded_of_not_found proper alive missing) recorded
  | hear less => trivial
  | hearNothing all => exact accords
  | stop heard late => exact .inr ⟨rfl, late⟩
  | sleep heard early => exact accords
  | wake called => exact accords
  | stir heard => exact accords
  | leave busy => trivial

/-- What holds of the server and of all collectors. -/
structure Kept (s : Collecting τ) (h : Deeds) : Prop where
  server : s.server.Kept h
  collectors : Run.Always Deeds.Proper h → ∀ x ∈ s.collectors, s.Accords h x

/-- Nothing has been said yet of a call that begins. -/
theorem Kept.call (before : Kept s h) (id : TaskId) (limit : Duration) (deadline : Nat) :
    Kept { s with collectors := s.collectors ++ [.create id limit deadline] } h := by
  refine ⟨before.server, fun proper x mem => ?_⟩
  rcases List.mem_append.1 mem with old | new
  · exact before.collectors proper x old
  · rw [List.mem_singleton.1 new]
    trivial

theorem Kept.step (before : Kept s h) (happens : s.apply e = some next) :
    Kept next (h ++ s.deeds e) := by
  rcases apply_cases happens with
    ⟨event, server, rfl, -, goes, rfl⟩ | ⟨t, rfl, rfl⟩ | ⟨span, rfl, rfl⟩ |
      ⟨id, limit, deadline, rfl, -, rfl⟩ | ⟨c, act, x, stage, rfl, at_, goes, rfl⟩
  · have after := before.server.step goes
    refine ⟨after, fun proper x mem => ?_⟩
    refine (before.collectors proper.of_append x mem).later (Nat.le_refl _) (Nat.le_refl _)
      (fun _ => after.recorded_append proper) fun heard _ => ?_
    exact alarms_of_recorded before.server proper.of_append
  · rw [deeds, List.append_nil]
    refine ⟨before.server, fun proper x mem => ?_⟩
    refine (before.collectors proper x mem).later (Nat.le_succ _) (Nat.le_refl _)
      (fun _ => id) fun heard le _ _ _ => ?_
    exact .inr (Nat.lt_succ_of_le le)
  · rw [deeds, List.append_nil]
    refine ⟨before.server, fun proper x mem => ?_⟩
    exact (before.collectors proper x mem).later (Nat.le_refl _) (Nat.le_add_right _ _)
      (fun _ => id) fun _ _ => id
  · rw [deeds, List.append_nil]
    exact before.call id limit deadline
  · rw [deeds, List.append_nil]
    refine ⟨before.server, fun proper y mem => ?_⟩
    rcases List.mem_or_eq_of_mem_set mem with old | rfl
    · exact before.collectors proper y old
    · exact (before.collectors proper x (List.mem_of_getElem? at_)).turn before.server proper goes

theorem kept_create (settings : QueueSettings) : Kept (create settings : Collecting τ) [] where
  server := Server.kept_create settings
  collectors := fun _ _ mem => nomatch mem

theorem kept_of_run {settings : QueueSettings} {events : List (Event τ)}
    (run : (create settings : Collecting τ).run? events = some s) :
    Kept s ((create settings : Collecting τ).history events) :=
  Run.history_induction Kept.step (kept_create settings) run

/-! ## One call -/

variable {c : Nat} {x first : Collector} {steps : List (Event τ)} {outcome : Outcome}

/-- A step is a turn of the collector, or leaves it as it is. -/
theorem collector_cases (happens : s.apply e = some next) (at_ : s.collectors[c]? = some x) :
    (next.collectors[c]? = some x ∧ s.announced ≤ next.announced ∧ ∀ act, e ≠ .turn c act) ∨
      ∃ act stage, e = .turn c act ∧
        x.turn? s.server.pool.backend s.announced s.now act = some stage ∧
        next = { s with collectors := s.collectors.set c { x with stage } } := by
  rcases apply_cases happens with
    ⟨event, server, rfl, -, goes, rfl⟩ | ⟨t, rfl, rfl⟩ | ⟨span, rfl, rfl⟩ |
      ⟨id, limit, deadline, rfl, -, rfl⟩ | ⟨d, act, y, stage, rfl, there, goes, rfl⟩
  · exact .inl ⟨at_, Nat.le_refl _, nofun⟩
  · exact .inl ⟨at_, Nat.le_succ _, nofun⟩
  · exact .inl ⟨at_, Nat.le_refl _, nofun⟩
  · obtain ⟨inRange, -⟩ := List.getElem?_eq_some_iff.1 at_
    refine .inl ⟨?_, Nat.le_refl _, nofun⟩
    rw [List.getElem?_append_left inRange]
    exact at_
  · by_cases own : d = c
    · subst own
      rw [at_] at there
      cases there
      exact .inr ⟨act, stage, rfl, goes, rfl⟩
    · refine .inl ⟨?_, Nat.le_refl _, ?_⟩
      · rw [List.getElem?_set_ne own]
        exact at_
      · rintro _ ⟨⟩
        exact own rfl

theorem turns_concat_other (steps : List (Event τ)) (other : ∀ act, e ≠ .turn c act) :
    turns c (steps ++ [e]) = turns c steps := by
  have none : turns c [e] = 0 := by
    cases e with
    | turn d act =>
      have ne : d ≠ c := fun eq => other act (by rw [eq])
      simp [turns, ne]
    | _ => rfl
  rw [turns, List.countP_append]
  exact congrArg (turns c steps + ·) none

theorem turns_concat_own (steps : List (Event τ)) (act : Collector.Act) :
    turns c (steps ++ [.turn c act]) = turns c steps + 1 := by
  rw [turns, List.countP_append]
  simp [turns]

/-- A handle lives as long as somebody collects its outcome. -/
theorem alive_step (happens : s.apply e = some next) (at_ : s.collectors[c]? = some x)
    (busy : x.isOver = false) (alive : x.id ∉ h.dropped) : x.id ∉ (h ++ s.deeds e).dropped := by
  rw [Deeds.dropped_append, List.mem_append]
  rintro (before | now)
  · exact alive before
  · rcases apply_cases happens with
      ⟨event, server, rfl, may, goes, rfl⟩ | ⟨t, rfl, rfl⟩ | ⟨span, rfl, rfl⟩ |
        ⟨id, limit, deadline, rfl, -, rfl⟩ | ⟨d, act, y, stage, rfl, -, -, rfl⟩
    · have collected : s.isCollected x.id = true :=
        List.any_eq_true.2 ⟨x, List.mem_of_getElem? at_, by simp [busy]⟩
      rw [Server.forget_of_dropped goes (Deeds.mem_dropped.1 now), mayGo, collected] at may
      simp at may
    all_goals cases now

/-- What has become of a collector since it was as given. -/
structure Follows (c : Nat) (first : Collector) (s : Collecting τ) (steps : List (Event τ))
    (h : Deeds) (x : Collector) : Prop where
  at_ : s.collectors[c]? = some x
  id : x.id = first.id
  limit : x.limit = first.limit
  deadline : x.deadline = first.deadline
  alive : x.isOver = false → x.id ∉ h.dropped
  gaveUp : x.stage = .left → first.stage = .left ∨ .turn c .leave ∈ steps

theorem Follows.start (at_ : s.collectors[c]? = some x)
    (alive : x.isOver = false → x.id ∉ h.dropped) : Follows c x s [] h x :=
  ⟨at_, rfl, rfl, rfl, alive, .inl⟩

theorem Follows.step (follows : Follows c first s steps h x) (happens : s.apply e = some next) :
    ∃ y, Follows c first next (steps ++ [e]) (h ++ s.deeds e) y := by
  rcases collector_cases happens follows.at_ with ⟨at_, -, -⟩ | ⟨act, stage, rfl, goes, rfl⟩
  · refine ⟨x, { follows with at_, alive := fun busy => ?_, gaveUp := fun left => ?_ }⟩
    · exact alive_step happens follows.at_ busy (follows.alive busy)
    · exact (follows.gaveUp left).imp_right (List.mem_append_left _)
  · obtain ⟨inRange, -⟩ := List.getElem?_eq_some_iff.1 follows.at_
    have busy := Collector.not_over_of_turn goes
    have alive := alive_step happens follows.at_ busy (follows.alive busy)
    refine ⟨{ x with stage }, { follows with
      at_ := List.getElem?_set_self inRange, alive := fun _ => alive, gaveUp := fun left => ?_ }⟩
    have here : stage = .left := left
    rw [here] at goes
    rw [Collector.leave_of_left goes]
    exact .inr (List.mem_append_right _ (List.mem_singleton.2 rfl))

theorem follows_of_run {later : List (Event τ)} {last : Collecting τ}
    (follows : Follows c first s steps h x) (run : s.run? later = some last) :
    ∃ y, Follows c first last (steps ++ later) (h ++ s.history later) y :=
  @Run.steps_induction _ _ _ apply deeds (fun s steps past => ∃ x, Follows c first s steps past x)
    (fun ⟨_, follows⟩ happens => follows.step happens) later s last steps h ⟨x, follows⟩ run

/-- How a collector comes to its end, within so many turns, once its outcome was announced. -/
structure Ends (c most : Nat) (outcome : Outcome) (s : Collecting τ) (steps : List (Event τ))
    (h : Deeds) (x : Collector) : Prop where
  recorded : h.outcomesOf x.id = [outcome]
  alert : x.stage.Alert s.announced
  within : x.stage.rank + turns c steps ≤ most
  answer : ∀ answer, x.stage = .answered answer → answer = outcome ∨ 5 ≤ most

theorem Ends.step {most : Nat} (ends : Ends c most outcome s steps h x)
    (follows : Follows c first s steps h x) (kept : Kept s h) (happens : s.apply e = some next)
    (proper : Run.Always Deeds.Proper (h ++ s.deeds e)) :
    ∃ y, Follows c first next (steps ++ [e]) (h ++ s.deeds e) y ∧
      Ends c most outcome next (steps ++ [e]) (h ++ s.deeds e) y := by
  obtain ⟨y, after⟩ := follows.step happens
  refine ⟨y, after, ?_⟩
  have recorded : Deeds.outcomesOf x.id (h ++ s.deeds e) = [outcome] :=
    (kept.step happens).server.recorded_append proper ends.recorded
  rcases collector_cases happens follows.at_ with
    ⟨at_, announced, other⟩ | ⟨act, stage, rfl, goes, rfl⟩
  · cases after.at_.symm.trans at_
    refine ⟨recorded, ends.alert.mono announced, ?_, ends.answer⟩
    rw [turns_concat_other steps other]
    exact ends.within
  · obtain ⟨inRange, -⟩ := List.getElem?_eq_some_iff.1 follows.at_
    cases after.at_.symm.trans (List.getElem?_set_self inRange)
    have found := kept.server.found_of_recorded proper.of_append
      (follows.alive (Collector.not_over_of_turn goes)) ends.recorded
    obtain ⟨alert, closer, answer⟩ := ends.alert.turn found goes
    have most := ends.within
    refine ⟨recorded, alert, ?_, fun told eq => (answer told eq).imp_right fun late => ?_⟩
    · rw [turns_concat_own]
      change stage.rank + (turns c steps + 1) ≤ _
      omega
    · omega

theorem ends_of_run {most : Nat} {later : List (Event τ)} {last : Collecting τ}
    (ends : Ends c most outcome s [] h x) (at_ : s.collectors[c]? = some x)
    (alive : x.isOver = false → x.id ∉ h.dropped) (kept : Kept s h)
    (run : s.run? later = some last)
    (proper : Run.Always Deeds.Proper (h ++ s.history later)) :
    ∃ y, last.collectors[c]? = some y ∧
      Ends c most outcome last later (h ++ s.history later) y := by
  have carried := @Run.steps_induction _ _ _ apply deeds
    (fun s steps past => Kept s past ∧ (Run.Always Deeds.Proper past →
      ∃ y, Follows c x s steps past y ∧ Ends c most outcome s steps past y))
    (fun ⟨kept, before⟩ happens => ⟨kept.step happens, fun proper =>
      have ⟨_, follows, ends⟩ := before proper.of_append
      ends.step follows kept happens proper⟩)
    later s last [] h ⟨kept, fun _ => ⟨x, .start at_ alive, ends⟩⟩ run
  obtain ⟨y, follows, ends⟩ := carried.2 proper
  exact ⟨y, follows.at_, ends⟩

/-- Once the outcome was announced, its collector looks at the slot before it sleeps. -/
theorem Accords.alert (accords : s.Accords h x) (recorded : h.outcomesOf x.id ≠ [])
    (alive : x.isOver = false → x.id ∉ h.dropped)
    (announced : ∀ t, (t, x.id) ∉ s.unannounced) : x.stage.Alert s.announced := by
  have heardLess {heard : Nat} (busy : x.isOver = false) (alarms : s.Alarms h x.id heard) :
      heard < s.announced :=
    (alarms recorded (alive busy)).resolve_left fun ⟨t, waiting⟩ => announced t waiting
  unfold Accords at accords
  unfold Collector.isOver at heardLess
  cases at_ : x.stage with
  | missed heard | unheard heard | asleep heard =>
    simp only [at_] at accords heardLess
    exact heardLess trivial accords.2
  | _ => trivial

theorem turn_happens {act : Collector.Act} {stage : Collector.Stage}
    (at_ : s.collectors[c]? = some x)
    (goes : x.turn? s.server.pool.backend s.announced s.now act = some stage) :
    s.apply (.turn c act) = some { s with collectors := s.collectors.set c { x with stage } } := by
  simp only [apply, at_, goes, Option.map_some]

/-- The call that collects an outcome after it was recorded is told at its first look. -/
theorem ends_of_call (recorded : h.outcomesOf x.id = [outcome]) (begins : x.stage = .entering) :
    Ends c 2 outcome s [] h x where
  recorded := recorded
  alert := by rw [begins]; trivial
  within := by rw [begins]; exact Nat.le_refl 2
  answer answer told := by rw [begins] at told; cases told

theorem Ends.over_or_goes {most : Nat} (ends : Ends c most outcome s steps h x)
    (at_ : s.collectors[c]? = some x) :
    x.isOver ∨ turns c steps < most ∧ ∃ next, s.apply (.turn c .go) = some next := by
  cases busy : x.isOver with
  | true => exact .inl rfl
  | false =>
    have left : x.stage.rank ≠ 0 := by
      intro last
      rw [Collector.isOver_of_rank last] at busy
      cases busy
    have within := ends.within
    obtain ⟨stage, goes⟩ := ends.alert.exists_turn busy
    exact .inr ⟨by omega, _, turn_happens at_ goes⟩

/-- A collector of a recorded outcome can go on, or the outcome is still to be announced. -/
theorem Accords.goes (accords : s.Accords h x) (at_ : s.collectors[c]? = some x)
    (recorded : h.outcomesOf x.id ≠ []) (alive : x.isOver = false → x.id ∉ h.dropped)
    (busy : x.isOver = false) :
    (∃ t next, (t, x.id) ∈ s.unannounced ∧ s.apply (.announce t) = some next) ∨
      ∃ next, s.apply (.turn c .go) = some next := by
  by_cases waiting : ∃ t, (t, x.id) ∈ s.unannounced
  · obtain ⟨t, mem⟩ := waiting
    have must : s.mustAnnounce t = true := List.any_eq_true.2 ⟨(t, x.id), mem, by simp⟩
    exact .inl ⟨t, _, mem, by rw [apply, if_pos must]⟩
  · have alert := accords.alert recorded alive fun t mem => waiting ⟨t, mem⟩
    obtain ⟨stage, goes⟩ := alert.exists_turn busy
    exact .inr ⟨_, turn_happens at_ goes⟩

/-- From the announcement of its outcome on, a collector comes to its end. -/
theorem exists_ends {later : List (Event τ)} {last : Collecting τ}
    (follows : Follows c first s steps h x) (kept : Kept s h) (recorded : h.outcomesOf x.id ≠ [])
    (announced : ∀ t, (t, x.id) ∉ s.unannounced) (run : s.run? later = some last)
    (proper : Run.Always Deeds.Proper (h ++ s.history later)) :
    ∃ outcome y, last.collectors[c]? = some y ∧
      Ends c 5 outcome last later (h ++ s.history later) y := by
  have accords := kept.collectors proper.of_append x (List.mem_of_getElem? follows.at_)
  obtain ⟨outcome, only⟩ := kept.server.exists_recorded proper.of_append recorded
  have awake : Ends c 5 outcome s [] h x :=
    { recorded := only
      alert := accords.alert recorded follows.alive announced
      within := x.stage.rank_le
      answer := fun _ _ => .inr (Nat.le_refl 5) }
  exact ⟨outcome, ends_of_run awake follows.at_ follows.alive kept run proper⟩

theorem set_of_getElem? {l : List Collector} (at_ : l[c]? = some x) : l.set c x = l := by
  obtain ⟨inRange, rfl⟩ := List.getElem?_eq_some_iff.1 at_
  exact List.set_getElem_self inRange

/-- A collector may go on undisturbed. -/
theorem reaches_goOn (n : Nat) (at_ : s.collectors[c]? = some x) :
    Run.Reaches apply s
      { s with
        collectors :=
          s.collectors.set c (x.goOn s.server.pool.backend s.announced s.now n) } := by
  induction n generalizing s x with
  | zero =>
    rw [Collector.goOn, set_of_getElem? at_]
    exact .refl s
  | succ n ih =>
    cases goes : x.turn? s.server.pool.backend s.announced s.now .go with
    | none =>
      rw [Collector.goOn_of_stay _ goes, set_of_getElem? at_]
      exact .refl s
    | some stage =>
      -- the turns that follow replace what this one leaves
      obtain ⟨inRange, -⟩ := List.getElem?_eq_some_iff.1 at_
      have later := @ih { s with collectors := s.collectors.set c { x with stage } }
        { x with stage } (List.getElem?_set_self inRange)
      rw [List.set_set] at later
      rw [Collector.goOn_of_turn _ goes]
      exact .head (turn_happens at_ goes) later

/-! ## Main result -/

variable {settings : QueueSettings} {before after : List (Event τ)} {id : TaskId} {limit : Duration}
  {deadline : Nat}

/-- A call in a run, from the state it begins in: what has become of it, and that it comes to its
end if the outcome was there before it. -/
structure Call (settings : QueueSettings) (before after : List (Event τ)) (id : TaskId)
    (limit : Duration) (deadline : Nat) (s₀ s : Collecting τ) (x : Collector) : Prop where
  ran : (create settings : Collecting τ).run? before = some s₀
  late : s₀.now + min limit.nanos longestWait ≤ deadline
  follows : Follows s₀.collectors.length (.create id limit deadline) s after
    ((create settings).history (before ++ .collect id limit deadline :: after)) x
  early : Run.Always Deeds.Proper
      ((create settings).history (before ++ .collect id limit deadline :: after)) →
    ∀ outcome, ((create settings).history before).outcomesOf id = [outcome] →
      Ends s₀.collectors.length 2 outcome s after
        ((create settings).history (before ++ .collect id limit deadline :: after)) x

theorem exists_call
    (run : (create settings : Collecting τ).run? (before ++ .collect id limit deadline :: after) =
      some s)
    (alive : id ∉ ((create settings : Collecting τ).history before).dropped) :
    ∃ s₀ x, Call settings before after id limit deadline s₀ s x := by
  obtain ⟨s₀, s₁, ran, happens, later⟩ := Run.exists_step run
  have noted := @Run.history_append _ _ _ apply deeds _ _ _ ran
    (.collect id limit deadline :: after)
  rw [Run.history, happens] at noted
  rcases apply_cases happens with
    ⟨_, _, ⟨⟩, -⟩ | ⟨_, ⟨⟩, -⟩ | ⟨_, ⟨⟩, -⟩ | ⟨_, _, _, ⟨⟩, late, rfl⟩ | ⟨_, _, _, _, ⟨⟩, -⟩
  have begins : (s₀.collectors ++ [Collector.create id limit deadline])[s₀.collectors.length]? =
      some (.create id limit deadline) := by simp
  obtain ⟨x, follows⟩ := follows_of_run (.start begins fun _ => alive) later
  have whole : (create settings).history (before ++ .collect id limit deadline :: after) =
      (create settings).history before ++
        history { s₀ with collectors := s₀.collectors ++ [.create id limit deadline] } after :=
    noted
  refine ⟨s₀, x, ran, late, by rw [whole]; exact follows, fun proper outcome recorded => ?_⟩
  rw [whole] at proper ⊢
  obtain ⟨y, at_, ends⟩ := ends_of_run (ends_of_call recorded rfl) begins (fun _ => alive)
    ((kept_of_run ran).call id limit deadline) later proper
  cases follows.at_.symm.trans at_
  exact ends

/-- Once the outcome has been announced, a call is over or can go on, and not for long. -/
theorem Call.over_or_goes {mid more : List (Event τ)} {s₀ m : Collecting τ}
    (call : Call settings before (mid ++ more) id limit deadline s₀ s x)
    (run : (create settings : Collecting τ).run?
      (before ++ .collect id limit deadline :: (mid ++ more)) = some s)
    (ran : (create settings : Collecting τ).run? (before ++ .collect id limit deadline :: mid) =
      some m)
    (alive : id ∉ ((create settings : Collecting τ).history before).dropped)
    (proper : Run.Always Deeds.Proper ((create settings : Collecting τ).history
      (before ++ .collect id limit deadline :: (mid ++ more))))
    (recorded : ((create settings : Collecting τ).history
      (before ++ .collect id limit deadline :: mid)).outcomesOf id ≠ [])
    (announced : ∀ t, (t, id) ∉ m.unannounced) :
    x.isOver ∨ turns s₀.collectors.length more < 5 ∧
      ∃ next, s.apply (.turn s₀.collectors.length .go) = some next := by
  obtain ⟨_, z, callMid⟩ := exists_call ran alive
  cases call.ran.symm.trans callMid.ran
  -- the run is cut where the outcome has been announced
  have whole : before ++ .collect id limit deadline :: (mid ++ more) =
      (before ++ .collect id limit deadline :: mid) ++ more := by
    rw [List.append_assoc]
    rfl
  have rest : m.run? more = some s := by
    rw [← run, whole]
    exact (Run.last?_append ran more).symm
  have cut : (create settings).history (before ++ .collect id limit deadline :: (mid ++ more)) =
      (create settings).history (before ++ .collect id limit deadline :: mid) ++
        m.history more := by
    rw [whole]
    exact Run.history_append ran more
  rw [cut] at proper
  have own : z.id = id := callMid.follows.id
  obtain ⟨outcome, y, at_, ends⟩ := exists_ends callMid.follows (kept_of_run ran)
    (by rw [own]; exact recorded) (by rw [own]; exact announced) rest proper
  cases call.follows.at_.symm.trans at_
  exact ends.over_or_goes at_

/-- **A handle tells one story.**  However the server, its workers, other handles and other calls
alternate with a call through a living handle: the call is told the one outcome of its submission, or
that its time is up, the latter only once it is and only if the outcome had not been recorded when the
call began.  If it had been recorded by then, the call is told within two turns, without sleeping; and
if an earlier call was told the outcome, this one is told the same.  The call changes nothing but its
own stage.  While it waits for an outcome that was recorded, it can go on or the outcome is still to
be announced, and after the announcement it is over within five turns. -/
theorem told_one_outcome
    (run : (create settings : Collecting τ).run? (before ++ .collect id limit deadline :: after) =
      some s) :
    let events := before ++ .collect id limit deadline :: after
    let h₀ := (create settings : Collecting τ).history before
    let h := (create settings : Collecting τ).history events
    Run.Always Deeds.Proper h → id ∈ h₀.handles →
    ∃ s₀ c x, (create settings : Collecting τ).run? before = some s₀ ∧
      c = s₀.collectors.length ∧ s.collectors[c]? = some x ∧ x.id = id ∧ x.limit = limit ∧
      (∀ answer, x.stage = .answered answer →
        h.outcomesOf id = [answer] ∨
          answer = .error (.timeout id.toText limit) ∧ h₀.outcomesOf id = [] ∧
            s₀.now + min limit.nanos longestWait ≤ deadline ∧ deadline ≤ s.now) ∧
      (∀ outcome, h₀.outcomesOf id = [outcome] →
        (∀ answer, x.stage = .answered answer → answer = outcome) ∧
        (x.isOver ∨ turns c after < 2 ∧ ∃ next, s.apply (.turn c .go) = some next)) ∧
      (∀ y ∈ s₀.collectors, y.id = id → ∀ told, y.stage = .answered told → told ≠ y.timeout →
        ∀ answer, x.stage = .answered answer → answer = told) ∧
      (x.stage = .left → .turn c .leave ∈ after) ∧
      ((Server.create settings).run? (serverEvents events) = some s.server ∧
        h = (Server.create settings).history (serverEvents events)) ∧
      (∀ act next, s.apply (.turn c act) = some next →
        ∃ stage, next = { s with collectors := s.collectors.set c { x with stage } }) ∧
      (h.outcomesOf id ≠ [] → x.isOver = false →
        (∃ t next, (t, id) ∈ s.unannounced ∧ s.apply (.announce t) = some next) ∨
          ∃ next, s.apply (.turn c .go) = some next) ∧
      ∀ mid more m, after = mid ++ more →
        (create settings : Collecting τ).run? (before ++ .collect id limit deadline :: mid) =
          some m →
        ((create settings : Collecting τ).history
          (before ++ .collect id limit deadline :: mid)).outcomesOf id ≠ [] →
        (∀ t, (t, id) ∉ m.unannounced) →
        x.isOver ∨ turns c more < 5 ∧ ∃ next, s.apply (.turn c .go) = some next := by
  intro events h₀ h proper handle
  obtain ⟨-, undropped⟩ := Deeds.mem_handles.1 handle
  obtain ⟨s₀, x, call⟩ := exists_call run undropped
  have follows := call.follows
  have kept₀ : Kept s₀ h₀ := kept_of_run call.ran
  have kept : Kept s h := kept_of_run run
  have proper₀ : Run.Always Deeds.Proper h₀ := by
    have noted : h = h₀ ++ _ := Run.history_append call.ran _
    rw [noted] at proper
    exact proper.of_append
  have accords := kept.collectors proper x (List.mem_of_getElem? follows.at_)
  have same : x.id = id := follows.id
  have timeout : x.timeout = .error (.timeout id.toText limit) := by
    rw [Collector.timeout, same, show x.limit = limit from follows.limit]
  have toldOf {outcome : Outcome} (recorded : h₀.outcomesOf id = [outcome]) (answer : Outcome)
      (told : x.stage = .answered answer) : answer = outcome :=
    ((call.early proper outcome recorded).answer answer told).resolve_right (by decide)
  refine ⟨s₀, _, x, call.ran, rfl, follows.at_, same, follows.limit, fun answer told => ?_,
    fun outcome recorded => ⟨toldOf recorded, ?_⟩, fun y mem own other found real => ?_,
    fun left => ?_, server_of_run run, fun act next happens => ?_, fun recorded busy => ?_,
    fun mid more m split ran recorded announced => ?_⟩
  · simp only [Accords, told, same] at accords
    rcases accords with only | ⟨rfl, up⟩
    · exact .inl only
    · by_cases recorded : h₀.outcomesOf id = []
      · rw [follows.deadline] at up
        exact .inr ⟨timeout, recorded, call.late, up⟩
      · obtain ⟨outcome, first⟩ := kept₀.server.exists_recorded proper₀ recorded
        rw [toldOf first _ told, ← same]
        exact .inl (call.early proper outcome first).recorded
  · exact (call.early proper outcome recorded).over_or_goes follows.at_
  · have before := kept₀.collectors proper₀ y mem
    simp only [Accords, found, own] at before
    rcases before with recorded | ⟨up, -⟩
    · exact toldOf recorded
    · exact absurd up real
  · exact (follows.gaveUp left).resolve_left nofun
  · rcases collector_cases happens follows.at_ with ⟨-, -, other⟩ | ⟨_, stage, -, -, eq⟩
    · exact absurd rfl (other act)
    · exact ⟨stage, eq⟩
  · rw [← same] at recorded ⊢
    exact accords.goes follows.at_ recorded follows.alive busy
  · subst split
    exact call.over_or_goes run ran undropped proper recorded announced

/-- A submission, and a call for its outcome whose time is up at once. -/
def sampleImpatience : List (Event Unit) :=
  [.server (.register "ping" "ping" ()), .server .start,
    .server (.enqueue ⟨.ofNat 1⟩ "ping" .empty .epoch), .collect ⟨.ofNat 1⟩ .zero 0, .turn 0 .go,
    .turn 0 .go, .turn 0 .go, .turn 0 .go]

/-- A second call has found nothing when the outcome is recorded; it is about to sleep then. -/
def samplePatience : List (Event Unit) :=
  [.turn 1 .go, .turn 1 .go, .turn 1 .go, .server (.work (.wake 0)), .server (.work (.look 0)),
    .server (.work (.take 0)), .server (.work (.count 0)), .server (.work (.begin 0 .epoch)),
    .server (.work (.finish 0 (.returned .null))), .server (.work (.uncount 0)),
    .server (.work (.store 0)), .turn 1 .go, .announce (.worker 0), .turn 1 .go, .turn 1 .go,
    .turn 1 .go, .turn 1 .go]

theorem sampleCalls_told :
    let events := sampleImpatience ++
      .collect ⟨.ofNat 1⟩ (.ofSecs 1) 1000000000 :: samplePatience
    let h₀ := (create { workers := 1 }).history sampleImpatience
    let h := (create { workers := 1 }).history events
    Run.Always Deeds.Proper h ∧ ⟨.ofNat 1⟩ ∈ h₀.handles ∧
      ∃ s x, (create { workers := 1 }).run? events = some s ∧ s.collectors[1]? = some x ∧
        x.stage = .answered (.ok .null) ∧ h.outcomesOf ⟨.ofNat 1⟩ = [.ok .null] := by
  intro events h₀ h
  have run : (create { workers := 1 }).run? events = some _ := rfl
  have proper : Run.Always Deeds.Proper h := by decide +kernel
  have handle : (⟨.ofNat 1⟩ : TaskId) ∈ h₀.handles := by decide +kernel
  obtain ⟨s₀, c, x, ran, first, at_, -, -, told, -⟩ := told_one_outcome run proper handle
  cases ran
  subst first
  cases at_
  refine ⟨proper, handle, _, _, run, rfl, rfl, ?_⟩
  exact (told _ rfl).resolve_right fun timeout => nomatch timeout.1

end Collecting

end JobNode
