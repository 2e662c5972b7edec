import JobNode.Proofs.Queue.Order

/-!
# What workers account for

A pool keeps the number of the workers that are executing a submission.  It is right at every point
of a run, whatever becomes of the bodies.  What a worker takes stays in its hands until the outcome
is handed to the backend, which has it until a later one takes its place or the handle is dropped.

* `Pool.Counted.step`: the number of active workers is kept right.
* `Pool.Custody.step`: what a worker took is in its hands or handed over.
* `Deeds.find?_replay`: what the backend holds while a handle is kept.
* `Pool.Faithful.outcome`: what comes of a submission that a worker no longer has in hands.
-/

namespace JobNode

open Run

/-- The submission that the worker is executing: it has it in hands, and counts as active. -/
def Worker.executing? {τ : Type} (x : Worker τ) : Option Submission :=
  if x.isActive then x.held? else none

namespace Pool

variable {τ : Type} {p next : Pool τ} {e : Event} {w : Nat}

/-- The submissions that workers are executing. -/
def executing (p : Pool τ) : List Submission := p.workers.filterMap Worker.executing?

/-! ## Active workers -/

/-- A step changes the number of active workers as it says. -/
theorem active_of_apply (happens : p.apply e = some next) :
    next.active =
      match e with
      | .count _ => p.active + 1
      | .uncount _ => p.active - 1
      | _ => p.active := by
  cases step_of_apply happens <;> rfl

/-- Nobody takes back that the workers should stop, or that no more are started. -/
theorem flags_of_apply (happens : p.apply e = some next) :
    next.cancelled = (p.cancelled || e matches .cancel) ∧
      next.closed = (p.closed || e matches .close) := by
  cases step_of_apply happens <;> simp [setWorker]

theorem length_filterMap_set {α β : Type} (f : α → Option β) {l : List α} {i : Nat} {a : α}
    (at_ : l[i]? = some a) (b : α) :
    ((l.set i b).filterMap f).length + (f a).toList.length =
      (l.filterMap f).length + (f b).toList.length := by
  induction l generalizing i with
  | nil => cases at_
  | cons first rest ih =>
    cases i with
    | zero =>
      cases at_
      cases here : f a <;> cases there : f b <;> simp [here, there]
    | succ i =>
      have later := ih at_
      cases here : f first <;> simp [here] <;> omega

/-- The number that is kept is that of the submissions that are executed. -/
def Counted (p : Pool τ) : Prop := p.active = p.executing.length

theorem Counted.step (before : Counted p) (happens : p.apply e = some next) : Counted next := by
  have active := active_of_apply happens
  rw [Counted] at before ⊢
  cases own : e.worker? with
  | none =>
    obtain ⟨-, -, count, workers⟩ := still_of_apply happens own
    have same : next.active = p.active := by cases e <;> first | exact active | cases own
    rw [same, before, executing, executing, workers, List.filterMap_append]
    simp [Worker.executing?, Worker.isActive]
  | some w =>
    obtain ⟨a, b, l, at_, workers, -, -, moves⟩ := moves_of_apply happens own
    have changed := length_filterMap_set Worker.executing? at_ b
    rw [executing] at before
    rw [executing, workers]
    cases moves <;>
      simp [Worker.executing?, Worker.isActive, Worker.held?] at changed active <;> omega

theorem counted_empty (registry : Dict τ) : Counted (empty registry) := rfl

/-- A worker gives up a count that it has. -/
theorem Counted.uncount (counted : Counted p) (happens : p.apply (.uncount w) = some next) :
    next.active + 1 = p.active := by
  have active : next.active = p.active - 1 := active_of_apply happens
  obtain ⟨a, b, l, at_, -, -, -, moves⟩ := moves_of_apply happens rfl
  have some : 0 < p.executing.length := by
    cases moves with
    | uncount x outcome =>
      have mem : x ∈ p.executing :=
        List.mem_filterMap.2 ⟨_, List.mem_of_getElem? at_, rfl⟩
      exact List.length_pos_of_mem mem
  rw [← counted] at some
  omega

/-! ## Hands -/

/-- What a worker took is in its hands or handed over, in that order, and the backend has what was
recorded. -/
structure Custody (p : Pool τ) (h : Deeds) : Prop where
  hands : p.Hands h
  backend : p.backend = h.replay .empty
  unopened : .opened ∉ h

theorem custody_empty (registry : Dict τ) : Custody (empty registry) [] where
  hands := hands_empty registry
  backend := rfl
  unopened := List.not_mem_nil

theorem opened_not_mem (p : Pool τ) (e : Event) : .opened ∉ p.deeds e := by
  intro mem
  cases does_of_mem mem

/-- The backend gets what the deeds say. -/
theorem backend_of_apply (happens : p.apply e = some next) :
    next.backend = (p.deeds e).replay p.backend := by
  cases own : e.worker? with
  | some w =>
    obtain ⟨before, after, step⟩ := workerStep_of_apply own happens
    exact step.backend
  | none =>
    cases step_of_apply happens with
    | send | start | refuse | cancel | close | forget | cease => rfl
    | _ => cases own

theorem Custody.step {h : Deeds} (before : Custody p h) (happens : p.apply e = some next) :
    Custody next (h ++ p.deeds e) where
  hands := before.hands.step happens
  backend := by rw [Deeds.replay_append, ← before.backend, backend_of_apply happens]
  unopened mem := (List.mem_append.1 mem).elim before.unopened (opened_not_mem p e)

/-- Only what was taken is recorded, and nothing more often than it was taken. -/
theorem Custody.settled_subperm {h : Deeds} (custody : Custody p h) :
    h.settled.Subperm h.takings := by
  refine Deeds.settled_subperm fun t => ?_
  have handed : (h.settledBy t).Sublist (h.disposedBy t) := by
    have all := (h.settlements_sublist.filter (·.1 = t)).map Prod.snd
    rw [List.filter_map, List.map_map] at all
    exact all
  cases t with
  | worker w =>
    rw [custody.hands.kept w]
    exact handed.trans (List.sublist_append_left _ _)
  | server =>
    have nobody : ∀ d ∈ h, d.taker? ≠ some .server := by
      intro d mem own
      obtain ⟨w, -, eq⟩ := custody.hands.own d mem _ own
      cases eq
    obtain ⟨-, -, disposed⟩ := Deeds.nothing_of_taker nobody
    rw [disposed] at handed
    rw [List.sublist_nil.1 handed]
    exact List.nil_sublist _

theorem Custody.outcomesOf_length_le {h : Deeds} (custody : Custody p h) (order : InOrder p h)
    (id : TaskId) : (h.outcomesOf id).length ≤ h.timesAccepted id :=
  Deeds.outcomesOf_length_le custody.settled_subperm order id

/-! ## Outcomes -/

/-- What holds of a pool and its history. -/
structure Faithful (p : Pool τ) (h : Deeds) : Prop where
  custody : Custody p h
  order : InOrder p h
  slots : Always Deeds.Proper h → Deeds.Agrees p.backend h

theorem faithful_empty (registry : Dict τ) : Faithful (empty registry) [] where
  custody := custody_empty registry
  order := rfl
  slots _ _ := rfl

theorem Faithful.step {h : Deeds} (before : Faithful p h) (happens : p.apply e = some next) :
    Faithful next (h ++ p.deeds e) := by
  have custody := before.custody.step happens
  have order := before.order.step happens
  refine ⟨custody, order, fun proper => ?_⟩
  have agrees := before.slots proper.of_append
  rw [backend_of_apply happens]
  rcases p.deeds_cases e with nothing | ⟨deed, noted⟩
  · rw [nothing]
    exact agrees.silent rfl rfl
  · have unopened := opened_not_mem p e
    have most := custody.outcomesOf_length_le order
    rw [noted] at proper unopened most ⊢
    refine agrees.concat (fun opens => unopened ?_) proper most
    rw [opens]
    exact List.mem_singleton_self _

end Pool

/-- While nobody drops its handle, a submission has the last outcome that was recorded for it. -/
theorem Deeds.find?_replay {h : Deeds} {id : TaskId} (unopened : .opened ∉ h)
    (kept : id ∉ h.dropped) :
    (h.replay .empty).slots.find? id = (h.outcomesOf id).getLast?.map .done := by
  induction h using List.reverseRecOn with
  | nil => rfl
  | append_singleton h deed ih =>
    rw [dropped_append, List.mem_append, not_or] at kept
    rw [List.mem_append, not_or] at unopened
    have before := ih unopened.1 kept.1
    rw [replay_append, outcomesOf_append]
    have silent (outcomes : outcomesOf id [deed] = [])
        (same : (replay (replay .empty h) [deed]).slots.find? id =
          (replay .empty h).slots.find? id) :
        (replay (replay .empty h) [deed]).slots.find? id =
          (outcomesOf id h ++ outcomesOf id [deed]).getLast?.map .done := by
      rw [same, before, outcomes, List.append_nil]
    cases deed with
    | opened => exact absurd (List.mem_singleton_self _) unopened.2
    | dropped other =>
      have ne : id ≠ other := fun same => kept.2 (same ▸ List.mem_singleton_self _)
      exact silent rfl (Backend.find?_forget_of_ne ne)
    | settled t x outcome =>
      by_cases own : id = x.id
      · subst own
        have here : outcomesOf x.id [.settled t x outcome] = [outcome] := by
          simp [outcomesOf, settlements]
        rw [here, List.getLast?_append_of_ne_nil _ (List.cons_ne_nil _ _)]
        refine Backend.set_of_not_abandoned ?_ outcome
        rw [before]
        cases (outcomesOf x.id h).getLast? <;> simp
      · refine silent ?_ (Backend.find?_set_of_ne own outcome)
        simp [outcomesOf, settlements, Ne.symm own]
    | _ => exact silent rfl rfl

namespace Pool

variable {τ : Type} {p : Pool τ} {h : Deeds} {w : Nat} {x : Submission}

/-- A worker with empty hands has handed over an outcome for all that it took.  The backend has it
unless it lost it, a later outcome took its place or the handle was dropped. -/
theorem Faithful.outcome (faithful : Faithful p h) (idle : p.held w = [])
    (taken : x ∈ h.takenBy (.worker w)) :
    .lost w x ∈ h ∨ ∃ outcome, (.worker w, x, outcome) ∈ h.settlements ∧
      (x.id ∉ h.dropped → ∃ latest, (h.outcomesOf x.id).getLast? = some latest ∧
        p.backend.outcome? x.id = some latest) ∧
      (Always Deeds.Proper h →
        p.backend.slots.find? x.id = if x.id ∈ h.dropped then none else some (.done outcome)) := by
  rw [faithful.custody.hands.kept, idle, List.append_nil] at taken
  rcases Deeds.mem_disposedBy.1 taken with ⟨outcome, mem⟩ | ⟨v, same, lost⟩
  · refine .inr ⟨outcome, mem, fun kept => ?_, fun proper => ?_⟩
    all_goals have arrived : outcome ∈ h.outcomesOf x.id := Deeds.mem_outcomesOf.2 ⟨_, x, mem, rfl⟩
    · have found := Deeds.find?_replay faithful.custody.unopened kept
      have some := List.getLast?_eq_some_getLast (List.ne_nil_of_mem arrived)
      rw [← faithful.custody.backend, some] at found
      exact ⟨_, some, by rw [Backend.outcome?, found]; rfl⟩
    · have once := Nat.le_trans (faithful.custody.outcomesOf_length_le faithful.order x.id)
        (Deeds.timesAccepted_le_one proper x.id)
      obtain ⟨only, outcomes⟩ : ∃ only, h.outcomesOf x.id = [only] :=
        List.length_eq_one_iff.1 (Nat.le_antisymm once (List.length_pos_of_mem arrived))
      rw [outcomes, List.mem_singleton] at arrived
      rw [faithful.slots proper, Deeds.slot?, outcomes, arrived]
  · cases same
    exact .inl lost

end Pool

end JobNode
