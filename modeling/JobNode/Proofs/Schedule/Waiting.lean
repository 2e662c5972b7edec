import JobNode.Proofs.Manager.Waiting
import JobNode.Proofs.Schedule.Workshop

/-!
# What the waiters of a client are told

A client lets its waiters look one after the other, and lets the threads of the workshop run until
the next look is due.  Both are choices among the runs of `Manager.Waiting`: with jobs in memory,
what the waiters of a client are told, callers that wait for the job beside some traffic are told.

* `Waiting.reaches_traffic`, `Waiting.reaches_look`, `Waiting.reaches_wakes`: callers stand still,
  look, and end their pause.
* `Client.waitFor_told`: what the waiters of a client are told.
-/

namespace JobNode

open Run (Reaches)

theorem eq_map_some_of_mapM {α : Type} {l : List (Option α)} {as : List α}
    (complete : l.mapM id = some as) : l = as.map some := by
  induction l generalizing as with
  | nil =>
    cases complete
    rfl
  | cons a? rest ih =>
    rw [List.mapM_cons] at complete
    cases a? with
    | none => cases complete
    | some a =>
      obtain ⟨others, there, eq⟩ := Option.bind_eq_some_iff.1 complete
      cases there
      obtain ⟨left, found, eq⟩ := Option.bind_eq_some_iff.1 eq
      cases eq
      rw [ih found, List.map_cons]

namespace Manager.Waiting

variable {t last : Traffic} {key : JobKey}

/-- Whatever the traffic does, the callers can stand still meanwhile. -/
theorem reaches_traffic (moves : Reaches Traffic.apply t last) (waiters : List Waiter) :
    Reaches apply ⟨t, waiters⟩ ⟨last, waiters⟩ := by
  obtain ⟨events, run⟩ := moves
  induction events generalizing t with
  | nil =>
    cases run
    exact .refl _
  | cons e rest ih =>
    rw [Run.last?] at run
    cases happens : t.apply e with
    | none => simp [happens] at run
    | some next =>
      rw [happens] at run
      have moved : apply ⟨t, waiters⟩ (.traffic e) = some ⟨next, waiters⟩ := by
        simp only [apply, happens, Option.map_some]
      exact .head moved (ih run)

/-- Callers come one after the other. -/
theorem reaches_waits (t : Traffic) (front : List Waiter) (key : JobKey) (count : Nat) :
    Reaches apply ⟨t, front⟩ ⟨t, front ++ List.replicate count (.create key)⟩ := by
  induction count generalizing front with
  | zero =>
    rw [List.replicate_zero, List.append_nil]
    exact .refl _
  | succ count ih =>
    have comes : apply ⟨t, front⟩ (.wait key) = some ⟨t, front ++ [.create key]⟩ := rfl
    have rest := ih (front ++ [.create key])
    rw [List.append_assoc] at rest
    exact .head comes rest

/-- A caller whose look gets its answers comes to the end of the look. -/
theorem reaches_look (front back : List Waiter) {replies : List Procedure.Reply}
    {seen : Except Error StatusReport} {m : Memory}
    (advanced : (getStatus key).advances? t.memory replies = some (.done seen, m)) :
    Reaches apply ⟨t, front ++ .create key :: back⟩
      ⟨{ t with memory := m }, front ++ ⟨key, Waiter.turn key (.done seen)⟩ :: back⟩ := by
  let place (p : Procedure (Except Error StatusReport)) (m : Memory) : Waiting :=
    ⟨{ t with memory := m }, front ++ ⟨key, Waiter.turn key p⟩ :: back⟩
  refine Procedure.reaches_of_advances place (.look front.length) ?_ advanced
  intro p p' m m' reply advanced
  -- a procedure that gets an answer has not ended
  have watch : Waiter.turn key p = .looking p := by
    cases p with
    | done seen => cases advanced
    | get key next => rfl
    | save job next => rfl
    | now next => rfl
    | newId next => rfl
  have at_ : (front ++ ⟨key, Watch.looking p⟩ :: back)[front.length]? = some ⟨key, .looking p⟩ := by
    rw [List.getElem?_append_right (Nat.le_refl _), Nat.sub_self, List.getElem?_cons_zero]
  simp only [apply, place, watch, at_, Waiter.look?, advanced, Option.map_some,
    List.set_append_right _ _ (Nat.le_refl _), Nat.sub_self, List.set_cons_zero]

/-- The caller that an answer is for; one without an answer is as given. -/
def waiterOf (key : JobKey) (unanswered : Watch) : Option (Except Error Unit) → Waiter
  | none => ⟨key, unanswered⟩
  | some answer => ⟨key, .answered answer⟩

/-- Callers that pause go on, one after the other. -/
theorem reaches_wakes (t : Traffic) (key : JobKey) (front : List Waiter)
    (answers : List (Option (Except Error Unit))) :
    Reaches apply ⟨t, front ++ answers.map (waiterOf key .pausing)⟩
      ⟨t, front ++ answers.map (waiterOf key (.looking (getStatus key)))⟩ := by
  induction answers generalizing front with
  | nil => exact .refl _
  | cons answer? rest ih =>
    have later := ih (front ++ [waiterOf key (.looking (getStatus key)) answer?])
    simp only [List.append_assoc, List.singleton_append] at later
    cases answer? with
    | some answer => exact later
    | none =>
      refine .head (e := .wake front.length) ?_ later
      have at_ : (front ++ ⟨key, .pausing⟩ :: rest.map (waiterOf key .pausing))[front.length]? =
          some ⟨key, .pausing⟩ := by
        rw [List.getElem?_append_right (Nat.le_refl _), Nat.sub_self, List.getElem?_cons_zero]
      simp only [apply, List.map_cons, waiterOf, at_, Waiter.wake?, Waiter.create, Option.map_some,
        List.set_append_right _ _ (Nat.le_refl _), Nat.sub_self, List.set_cons_zero]

end Manager.Waiting

namespace Schedule

open Manager Waiting

namespace Workshop

variable {s : Workshop} {t : Traffic} {key : JobKey}

/-- What a workshop answers to a look is what a caller makes of it. -/
theorem lookAt_told (before : Shows s t) (now : Nat) (key : JobKey) (front back : List Waiter) :
    ∃ last, Shows (s.lookAt now key).2 last ∧
      Reaches Waiting.apply ⟨t, front ++ .create key :: back⟩
        ⟨last, front ++ waiterOf key .pausing (s.lookAt now key).1 :: back⟩ := by
  obtain ⟨replies, m, advanced, store, calls, deliveries⟩ :=
    exists_advances now (getStatus key) before.store
  refine ⟨{ t with memory := m }, ⟨store, ?_, ?_⟩, ?_⟩
  · exact before.calls.trans (congrArg _ calls).symm
  · exact deliveries.trans before.deliveries
  · have looked := reaches_look front back advanced
    have told : waiterOf key .pausing (s.lookAt now key).1 =
        ⟨key, Waiter.turn key (.done (s.carryOut now (getStatus key)).1)⟩ := by
      change waiterOf key .pausing (waitAnswer? key (s.carryOut now (getStatus key)).1) = _
      cases answer : waitAnswer? key (s.carryOut now (getStatus key)).1 with
      | none => simp only [waiterOf, Waiter.turn, answer]
      | some told => simp only [waiterOf, Waiter.turn, answer]
    rw [told]
    exact looked

end Workshop

namespace Client

open Workshop (Shows)

variable {t : Traffic} {key : JobKey}

/-- One look of each waiter that has no answer yet is one of each caller that stands for it. -/
theorem lookAll_told (c : Client) (before : Shows c.shop t) (key : JobKey) (front : List Waiter)
    (answers : List (Option (Except Error Unit))) :
    ∃ last, Shows (c.lookAll key answers).2.shop last ∧
      Reaches Waiting.apply ⟨t, front ++ answers.map (waiterOf key (.looking (getStatus key)))⟩
        ⟨last, front ++ (c.lookAll key answers).1.map (waiterOf key .pausing)⟩ := by
  induction answers generalizing c t front with
  | nil => exact ⟨t, before, .refl _⟩
  | cons answer? rest ih =>
    cases answer? with
    | some answer =>
      obtain ⟨last, after, moved⟩ := ih c before (front ++ [⟨key, .answered answer⟩])
      simp only [List.append_assoc, List.singleton_append] at moved
      exact ⟨last, after, moved⟩
    | none =>
      obtain ⟨mid, between, looked⟩ := Workshop.lookAt_told before c.run.now key front
        (rest.map (waiterOf key (.looking (getStatus key))))
      obtain ⟨last, after, moved⟩ := ih (c.change fun _ => (c.shop.lookAt c.run.now key).2) between
        (front ++ [waiterOf key .pausing (c.shop.lookAt c.run.now key).1])
      simp only [List.append_assoc, List.singleton_append] at moved
      exact ⟨last, after, looked.trans moved⟩

/-- A client whose waiters all have their answers has let callers look and pause. -/
theorem waitFrom_told {deadline fuel : Nat} (c : Client) (before : Shows c.shop t)
    (front : List Waiter) (waiters : List (Option (Except Error Unit)))
    {told : List (Except Error Unit)}
    (ended : (waitFrom key deadline fuel waiters c).1 = some told) :
    ∃ last, Shows (waitFrom key deadline fuel waiters c).2.shop last ∧
      Reaches Waiting.apply ⟨t, front ++ waiters.map (waiterOf key (.looking (getStatus key)))⟩
        ⟨last, front ++ told.map fun answer => ⟨key, .answered answer⟩⟩ := by
  induction fuel generalizing c t waiters with
  | zero => cases ended
  | succ fuel ih =>
    obtain ⟨mid, between, looked⟩ := lookAll_told c before key front waiters
    simp only [waitFrom] at ended ⊢
    split at ended
    next answers complete =>
      cases ended
      refine ⟨mid, between, ?_⟩
      rw [eq_map_some_of_mapM complete, List.map_map] at looked
      exact looked
    · split at ended
      · cases ended
      next early =>
        split at ended
        next again =>
          rw [if_neg early, if_pos again]
          obtain ⟨t', moves, shows⟩ := await_leads (c.lookAll key waiters).2 (fun _ => false)
            (min ((c.lookAll key waiters).2.shop.nextLook (c.lookAll key waiters).2.run.now) deadline)
            mid between
          obtain ⟨last, after, later⟩ := ih _ shows _ ended
          refine ⟨last, after, (looked.trans (reaches_traffic moves _)).trans ?_⟩
          exact (reaches_wakes t' key front _).trans later
        · cases ended

/-- **What the waiters of a client are told, callers that wait beside some traffic are told.** -/
theorem waitFor_told (c : Client) (before : Shows c.shop t) (front : List Waiter) (count : Nat)
    (limit : Duration) {told : List (Except Error Unit)}
    (ended : (c.waitFor key count limit).1 = some told) :
    ∃ last, Shows (c.waitFor key count limit).2.shop last ∧
      Reaches Waiting.apply ⟨t, front⟩
        ⟨last, front ++ told.map fun answer => ⟨key, .answered answer⟩⟩ := by
  obtain ⟨last, after, waited⟩ := waitFrom_told c before front (List.replicate count none) ended
  rw [List.map_replicate] at waited
  exact ⟨last, after, (reaches_waits t front key count).trans waited⟩

end Client

end Schedule

end JobNode
