import JobNode.Proofs.Queue.Settlement
import Mathlib.Data.List.Induction
import Mathlib.Data.List.Nodup

/-!
# What the backend holds

Outcomes arrive and handles are dropped in any order.  The backend holds an outcome just while
somebody may still ask for it, and the mark of a dropped handle just until the outcome arrives, so
that in the end nothing is left.

Identifiers are new when a submission is accepted, and a handle is dropped once, by the one who was
given it (`Deeds.Proper`); everything else follows from what the server does.

* `Deeds.Agrees.settle`, `Deeds.Agrees.drop`: the two changes of a slot.
* `Server.kept_of_run`: the slots of every reachable server are those that its history calls for.
* `Server.slots_exact`: what is held, what is not, and how much there is at most.
-/

namespace JobNode

/-! ## Slots -/

namespace Keyed

variable {κ α : Type} [DecidableEq κ]

theorem isSome_find?_of_mem {m : Keyed κ α} {key : κ} (mem : key ∈ m.entries.map (·.1)) :
    (m.find? key).isSome := by
  obtain ⟨⟨_, value⟩, there, rfl⟩ := List.mem_map.1 mem
  rw [mem_entries_iff.1 there]
  rfl

end Keyed

namespace Backend

variable {b : Backend} {id other : TaskId}

theorem find?_set_of_ne (ne : other ≠ id) (outcome : Outcome) :
    (b.set id outcome).slots.find? other = b.slots.find? other := by
  unfold set
  split
  · exact b.slots.find?_erase_of_ne ne
  · exact b.slots.find?_put_of_ne ne _

theorem find?_forget_of_ne (ne : other ≠ id) :
    (b.forget id).slots.find? other = b.slots.find? other := by
  unfold forget
  split
  · exact b.slots.find?_erase_of_ne ne
  · rfl
  · exact b.slots.find?_put_of_ne ne _

end Backend

namespace Deeds

/-- The identifiers whose handles were dropped. -/
def dropped (h : Deeds) : List TaskId :=
  h.filterMap fun
    | .dropped id => some id
    | _ => none

/-- The handles that were given out and not dropped. -/
def handles (h : Deeds) : List TaskId := (h.accepted.map (·.id)).filter (· ∉ h.dropped)

/-- The submissions whose outcome has not arrived. -/
def unsettled (h : Deeds) : List TaskId :=
  (h.accepted.map (·.id)).filter fun id => (h.outcomesOf id).isEmpty

/-- When a deed may come: a submission gets a new identifier, and its handle is dropped after that,
once. -/
def Proper (past : Deeds) : Deed → Prop
  | .accepted x => x.id ∉ past.accepted.map (·.id)
  | .dropped id => id ∈ past.accepted.map (·.id) ∧ id ∉ past.dropped
  | _ => True

instance (past : Deeds) : (deed : Deed) → Decidable (Proper past deed)
  | .accepted x => inferInstanceAs (Decidable (x.id ∉ past.accepted.map (·.id)))
  | .dropped id => inferInstanceAs (Decidable (id ∈ past.accepted.map (·.id) ∧ id ∉ past.dropped))
  | .opened | .halted | .taken _ _ | .begun _ _ | .cut _ _ | .settled _ _ _ | .lost _ _ =>
    inferInstanceAs (Decidable True)

/-- The slot that a history calls for. -/
def slot? (h : Deeds) (id : TaskId) : Option Slot :=
  match h.outcomesOf id with
  | [] => if id ∈ h.dropped then some .abandoned else none
  | outcome :: _ => if id ∈ h.dropped then none else some (.done outcome)

/-- The backend holds what the history calls for. -/
def Agrees (b : Backend) (h : Deeds) : Prop := ∀ id, b.slots.find? id = h.slot? id

variable {b : Backend} {h k : Deeds} {id : TaskId}

theorem mem_accepted {x : Submission} : x ∈ h.accepted ↔ .accepted x ∈ h := by
  simp only [accepted, List.mem_filterMap]
  constructor
  · rintro ⟨deed, mem, eq⟩
    cases deed <;> cases eq
    exact mem
  · exact fun mem => ⟨_, mem, rfl⟩

theorem mem_dropped : id ∈ h.dropped ↔ .dropped id ∈ h := by
  simp only [dropped, List.mem_filterMap]
  constructor
  · rintro ⟨deed, mem, eq⟩
    cases deed <;> cases eq
    exact mem
  · exact fun mem => ⟨_, mem, rfl⟩

theorem mem_settlements {t : Taker} {x : Submission} {outcome : Outcome} :
    (t, x, outcome) ∈ h.settlements ↔ .settled t x outcome ∈ h := by
  simp only [settlements, List.mem_filterMap]
  constructor
  · rintro ⟨deed, mem, eq⟩
    cases deed <;> cases eq
    exact mem
  · exact fun mem => ⟨_, mem, rfl⟩

/-- What was handed over was recorded or lost. -/
theorem mem_disposedBy {t : Taker} {x : Submission} :
    x ∈ h.disposedBy t ↔
      (∃ outcome, (t, x, outcome) ∈ h.settlements) ∨ ∃ w, t = .worker w ∧ .lost w x ∈ h := by
  have entry : x ∈ h.disposedBy t ↔ (t, x) ∈ h.disposals := by simp [disposedBy]
  rw [entry, disposals, List.mem_filterMap]
  constructor
  · rintro ⟨deed, mem, eq⟩
    cases deed <;> cases eq
    · exact .inl ⟨_, mem_settlements.2 mem⟩
    · exact .inr ⟨_, rfl, mem⟩
  · rintro (⟨outcome, mem⟩ | ⟨w, rfl, mem⟩)
    · exact ⟨_, mem_settlements.1 mem, rfl⟩
    · exact ⟨_, mem, rfl⟩

@[simp]
theorem dropped_append : dropped (h ++ k) = h.dropped ++ k.dropped := List.filterMap_append

@[simp]
theorem outcomesOf_append : outcomesOf id (h ++ k) = h.outcomesOf id ++ k.outcomesOf id := by
  simp [outcomesOf]

theorem mem_handles : id ∈ h.handles ↔ id ∈ h.accepted.map (·.id) ∧ id ∉ h.dropped := by
  rw [handles, List.mem_filter]
  simp

theorem mem_unsettled :
    id ∈ h.unsettled ↔ id ∈ h.accepted.map (·.id) ∧ h.outcomesOf id = [] := by
  rw [unsettled, List.mem_filter]
  simp

/-- What concerns neither outcomes nor handles changes no slot. -/
theorem Agrees.silent (agrees : Agrees b h) (undropped : k.dropped = [])
    (unsettled : k.settlements = []) : Agrees b (h ++ k) := by
  intro id
  have outcomes : k.outcomesOf id = [] := by rw [outcomesOf, unsettled]; rfl
  rw [agrees id, slot?, slot?, dropped_append, outcomesOf_append, undropped, outcomes,
    List.append_nil, List.append_nil]

/-- The first outcome of a submission is kept, unless the handle was dropped before. -/
theorem Agrees.settle {t : Taker} {x : Submission} {outcome : Outcome} (agrees : Agrees b h)
    (first : h.outcomesOf x.id = []) :
    Agrees (b.set x.id outcome) (h ++ [.settled t x outcome]) := by
  intro id
  have undropped : dropped (h ++ [.settled t x outcome]) = h.dropped := by
    rw [dropped_append]
    exact List.append_nil _
  by_cases own : id = x.id
  · subst own
    have arrived : outcomesOf x.id (h ++ [.settled t x outcome]) = [outcome] := by
      rw [outcomesOf_append, first]
      simp [outcomesOf, settlements]
    have before := agrees x.id
    rw [slot?, first] at before
    rw [slot?, arrived, undropped]
    by_cases gone : x.id ∈ h.dropped
    · simp only [gone, if_true] at before ⊢
      exact Backend.set_of_abandoned before outcome
    · simp only [gone, if_false] at before ⊢
      refine Backend.set_of_not_abandoned ?_ outcome
      rw [before]
      intro eq
      cases eq
  · have unsettled : outcomesOf id (h ++ [.settled t x outcome]) = h.outcomesOf id := by
      rw [outcomesOf_append]
      simp [outcomesOf, settlements, Ne.symm own]
    rw [Backend.find?_set_of_ne own, agrees id, slot?, slot?, undropped, unsettled]

/-- A handle that is dropped takes its outcome along, or leaves a mark for it. -/
theorem Agrees.drop (agrees : Agrees b h) (first : id ∉ h.dropped) :
    Agrees (b.forget id) (h ++ [.dropped id]) := by
  intro other
  have outcomes : outcomesOf other (h ++ [.dropped id]) = h.outcomesOf other := by
    rw [outcomesOf_append]
    exact List.append_nil _
  have now : dropped (h ++ [.dropped id]) = h.dropped ++ [id] := dropped_append
  by_cases own : other = id
  · subst own
    have before := agrees other
    rw [slot?] at before ⊢
    rw [outcomes, now]
    cases arrived : h.outcomesOf other with
    | nil =>
      simp only [arrived, first, if_false] at before
      simpa using Backend.forget_of_none before
    | cons outcome rest =>
      simp only [arrived, first, if_false] at before
      simpa using Backend.forget_of_done before
  · have same : other ∈ h.dropped ++ [id] ↔ other ∈ h.dropped := by simp [own]
    rw [Backend.find?_forget_of_ne own, agrees other, slot?, slot?, outcomes, now]
    simp only [same]

/-! ## Proper histories -/

theorem nodup_accepted (proper : Run.Always Proper h) : (h.accepted.map (·.id)).Nodup := by
  induction h using List.reverseRecOn with
  | nil => exact .nil
  | append_singleton h deed ih =>
    have earlier := ih proper.of_append
    have last : Proper h deed := proper.concat_fits
    rw [accepted_append, List.map_append]
    cases deed with
    | accepted x =>
      have new : x.id ∉ (accepted h).map (·.id) := last
      refine List.nodup_append.2 ⟨earlier, List.nodup_singleton _, ?_⟩
      intro id old other here eq
      rw [eq, List.mem_singleton.1 here] at old
      exact new old
    | _ => simpa [accepted] using earlier

theorem timesAccepted_le_one (proper : Run.Always Proper h) (id : TaskId) :
    h.timesAccepted id ≤ 1 := by
  have once := List.nodup_iff_count_le_one.1 (nodup_accepted proper) id
  rw [List.count, List.countP_map] at once
  have same : h.accepted.countP (·.id = id) = h.accepted.countP ((· == id) ∘ (·.id)) :=
    List.countP_congr fun x _ => by simp
  rw [timesAccepted, same]
  exact once

/-- While only what was taken is settled, and what was taken was accepted, a submission has no more
outcomes than it was accepted times. -/
theorem outcomesOf_length_le {pending : List Submission} (settled : h.settled.Subperm h.takings)
    (queue : h.accepted = h.takings.map (·.2) ++ pending) (id : TaskId) :
    (h.outcomesOf id).length ≤ h.timesAccepted id := by
  have most := settled.countP_le (·.2.id = id)
  rw [← outcomesOf_length] at most
  rw [timesAccepted, queue, List.countP_append, List.countP_map]
  exact Nat.le_trans most (Nat.le_add_right _ _)

/-- One more deed changes the slots as the history calls for. -/
theorem Agrees.concat {deed : Deed} (agrees : Agrees b h) (unopened : deed ≠ .opened)
    (proper : Run.Always Proper (h ++ [deed]))
    (most : ∀ id, (outcomesOf id (h ++ [deed])).length ≤ timesAccepted id (h ++ [deed])) :
    Agrees (replay b [deed]) (h ++ [deed]) := by
  cases deed with
  | opened => exact absurd rfl unopened
  | settled t x outcome =>
    -- there is one outcome at most afterwards, so there was none before
    have once := Nat.le_trans (most x.id) (timesAccepted_le_one proper x.id)
    have here : outcomesOf x.id [.settled t x outcome] = [outcome] := by
      simp [outcomesOf, settlements]
    rw [outcomesOf_append, here, List.length_append, List.length_singleton] at once
    exact agrees.settle (List.eq_nil_of_length_eq_zero (by omega))
  | dropped id =>
    have last : Proper h (.dropped id) := proper.concat_fits
    exact agrees.drop last.2
  | _ => exact agrees.silent rfl rfl

theorem accepted_of_dropped (proper : Run.Always Proper h) (gone : id ∈ h.dropped) :
    id ∈ h.accepted.map (·.id) := by
  induction h using List.reverseRecOn with
  | nil => cases gone
  | append_singleton h deed ih =>
    rw [accepted_append, List.map_append, List.mem_append]
    rw [dropped_append, List.mem_append] at gone
    rcases gone with before | now
    · exact .inl (ih proper.of_append before)
    · cases deed with
      | dropped other =>
        have last : Proper h (.dropped other) := proper.concat_fits
        rw [List.mem_singleton.1 now]
        exact .inl last.1
      | _ => cases now

/-! ## Steps -/

theorem toList_cases {α : Type} (o : Option α) (f : α → Deed) :
    o.toList.map f = [] ∨ ∃ deed, o.toList.map f = [deed] := by
  cases o with
  | none => exact .inl rfl
  | some a => exact .inr ⟨f a, rfl⟩

end Deeds

theorem Pool.deeds_cases {τ : Type} (p : Pool τ) (e : Event) :
    p.deeds e = [] ∨ ∃ deed, p.deeds e = [deed] := by
  cases e with
  | send x => exact .inr ⟨_, rfl⟩
  | forget id => exact .inr ⟨_, rfl⟩
  | take w => exact Deeds.toList_cases _ _
  | begin w now =>
    rw [deeds]
    split
    · split
      · exact .inr ⟨_, rfl⟩
      · exact .inl rfl
    · exact .inl rfl
  | overrun w | store w | lose w =>
    rw [deeds]
    split
    · exact .inr ⟨_, rfl⟩
    · exact .inl rfl
  | _ => exact .inl rfl

namespace Server

variable {τ : Type} {s next : Server τ} {h : Deeds} {e : Event τ}

theorem deeds_cases (s : Server τ) (e : Event τ) : s.deeds e = [] ∨ ∃ deed, s.deeds e = [deed] := by
  cases e with
  | start =>
    rw [deeds]
    split
    · exact .inr ⟨_, rfl⟩
    · exact .inl rfl
  | enqueue id task params now =>
    rw [deeds]
    split
    · exact .inr ⟨_, rfl⟩
    · exact .inl rfl
  | forget id => exact .inr ⟨_, rfl⟩
  | halt => exact .inr ⟨_, rfl⟩
  | takePending => exact Deeds.toList_cases _ _
  | closePending => exact Deeds.toList_cases _ _
  | work e => exact s.pool.deeds_cases e
  | _ => exact .inl rfl

theorem idle_of_opened (opened : .opened ∈ s.deeds e) : s.phase = .idle := by
  cases does_of_mem opened with
  | opens started => exact (eq_of_start started).1
  | works does => cases does

theorem started_of_accepted (happens : s.apply e = some next)
    (some : (s.deeds e).accepted ≠ []) : s.phase ≠ .idle := by
  obtain ⟨x, mem⟩ := List.exists_mem_of_ne_nil _ some
  intro idle
  cases does_of_mem (Deeds.mem_accepted.1 mem) with
  | accepts sent =>
    have running := (eq_of_enqueue sent).1
    rw [idle] at running
    cases running
  | works does =>
    cases does with
    | sends x => cases happens

theorem started_of_apply (happens : s.apply e = some next) (started : s.phase ≠ .idle) :
    next.phase ≠ .idle := by
  cases moves_of_apply happens with
  | register _ _ idle => exact absurd idle started
  | start opened => exact absurd (eq_of_start opened).1 started
  | enqueue sent =>
    obtain ⟨-, rfl⟩ := eq_of_enqueue sent
    exact started
  | halt | joinWorkers | finish => nofun
  | refuse | forget | work | cease | cancelWorkers | closePool | takePending | closePending =>
    exact started

/-! ## Runs -/

theorem Accounted.outcomesOf_length_le (account : Accounted s h) (id : TaskId) :
    (h.outcomesOf id).length ≤ h.timesAccepted id :=
  Deeds.outcomesOf_length_le account.settled_subperm account.queue id

/-- What holds of a server and its history while identifiers are new and handles dropped once. -/
structure Kept (s : Server τ) (h : Deeds) : Prop where
  account : Accounted s h
  started : h.accepted ≠ [] → s.phase ≠ .idle
  slots : Run.Always Deeds.Proper h → Deeds.Agrees s.pool.backend h

theorem Kept.started_step (before : Kept s h) (happens : s.apply e = some next)
    (some : (h ++ s.deeds e).accepted ≠ []) : next.phase ≠ .idle := by
  refine started_of_apply happens ?_
  by_cases now : (s.deeds e).accepted = []
  · rw [Deeds.accepted_append, now, List.append_nil] at some
    exact before.started some
  · exact started_of_accepted happens now

/-- An idle server has an empty history, as far as its backend goes. -/
theorem Kept.slot?_of_idle (before : Kept s h) (proper : Run.Always Deeds.Proper h)
    (idle : s.phase = .idle) (id : TaskId) : h.outcomesOf id = [] ∧ id ∉ h.dropped := by
  have unaccepted : h.accepted = [] := by
    by_contra some
    exact before.started some idle
  have outcomes := before.account.outcomesOf_length_le id
  rw [Deeds.timesAccepted, unaccepted] at outcomes
  refine ⟨List.eq_nil_of_length_eq_zero (Nat.le_zero.1 outcomes), fun gone => ?_⟩
  have given := Deeds.accepted_of_dropped proper gone
  rw [unaccepted] at given
  cases given

theorem Kept.slots_step (before : Kept s h) (happens : s.apply e = some next)
    (proper : Run.Always Deeds.Proper (h ++ s.deeds e)) :
    Deeds.Agrees next.pool.backend (h ++ s.deeds e) := by
  have step := step_of_apply before.account.orderly happens
  have agrees := before.slots proper.of_append
  have after := before.account.step happens
  rw [step.backend]
  rcases deeds_cases s e with nothing | ⟨deed, noted⟩
  · rw [nothing]
    exact agrees.silent rfl rfl
  · rw [noted] at proper after ⊢
    by_cases opens : deed = .opened
    · subst opens
      intro id
      have here : .opened ∈ s.deeds e := by
        rw [noted]
        exact List.mem_singleton_self _
      obtain ⟨unsettled, undropped⟩ :=
        before.slot?_of_idle proper.of_append (idle_of_opened here) id
      have outcomes : Deeds.outcomesOf id (h ++ [.opened]) = [] := by
        rw [Deeds.outcomesOf_append, unsettled]
        rfl
      have gone : id ∉ Deeds.dropped (h ++ [.opened]) := by
        rw [Deeds.dropped_append]
        simpa [Deeds.dropped] using undropped
      rw [Deeds.slot?, outcomes]
      simp only [gone, if_false]
      rfl
    · exact agrees.concat opens proper after.outcomesOf_length_le

theorem kept_create (settings : QueueSettings) : Kept (create settings : Server τ) [] where
  account := accounted_create settings
  started := absurd rfl
  slots := fun _ _ => rfl

theorem Kept.step (before : Kept s h) (happens : s.apply e = some next) :
    Kept next (h ++ s.deeds e) where
  account := before.account.step happens
  started := before.started_step happens
  slots := before.slots_step happens

theorem kept_of_run {settings : QueueSettings} {events : List (Event τ)}
    (run : (create settings : Server τ).run? events = some s) :
    Kept s ((create settings : Server τ).history events) :=
  Run.history_induction Kept.step (kept_create settings) run

/-! ## What is held -/

theorem Accounted.accepted_of_outcome (account : Accounted s h) {id : TaskId}
    (arrived : h.outcomesOf id ≠ []) : id ∈ h.accepted.map (·.id) := by
  have most := account.outcomesOf_length_le id
  have least := List.length_pos_iff.2 arrived
  have accepted : 0 < h.accepted.countP (·.id = id) := Nat.lt_of_lt_of_le least most
  obtain ⟨x, mem, own⟩ := List.countP_pos_iff.1 accepted
  exact List.mem_map.2 ⟨x, mem, of_decide_eq_true own⟩

/-- A stopped server owes no outcome. -/
theorem Accounted.unsettled_eq_nil (account : Accounted s h) (stopped : s.phase = .stopped) :
    h.unsettled = [] := by
  refine List.eq_nil_iff_forall_not_mem.2 fun id mem => ?_
  obtain ⟨accepted, missing⟩ := Deeds.mem_unsettled.1 mem
  obtain ⟨x, member, own⟩ := List.mem_map.1 accepted
  have taken := account.takersOf_length id
  rw [account.orderly.stopped stopped, List.countP_nil, Nat.add_zero] at taken
  have settled := (account.settled_perm stopped).countP_eq (·.2.id = id)
  rw [← Deeds.takersOf_length, ← Deeds.outcomesOf_length, missing, taken] at settled
  have some : 0 < h.accepted.countP (·.id = id) :=
    List.countP_pos_iff.2 ⟨x, member, decide_eq_true own⟩
  rw [← Deeds.timesAccepted, ← settled] at some
  exact Nat.lt_irrefl _ some

/-- Every slot belongs to a living handle or to a submission without outcome. -/
theorem size_le (account : Accounted s h) (proper : Run.Always Deeds.Proper h)
    (agrees : Deeds.Agrees s.pool.backend h) :
    s.pool.backend.size ≤ h.handles.length + h.unsettled.length := by
  have wanted : s.pool.backend.slots.entries.map (·.1) ⊆ h.handles ++ h.unsettled := by
    intro id mem
    have there := Keyed.isSome_find?_of_mem mem
    rw [agrees id, Deeds.slot?] at there
    rw [List.mem_append, Deeds.mem_handles, Deeds.mem_unsettled]
    cases arrived : h.outcomesOf id with
    | nil =>
      by_cases gone : id ∈ h.dropped
      · exact .inr ⟨Deeds.accepted_of_dropped proper gone, rfl⟩
      · simp [arrived, gone] at there
    | cons outcome rest =>
      by_cases gone : id ∈ h.dropped
      · simp [arrived, gone] at there
      · exact .inl ⟨account.accepted_of_outcome (by simp [arrived]), gone⟩
  have distinct := s.pool.backend.slots.distinct
  have fewer := (List.subperm_of_subset distinct wanted).length_le
  rw [List.length_map, List.length_append] at fewer
  exact fewer

/-- **The backend holds what is still wanted, and nothing else.**  However submissions, workers, the
shutdown and dropped handles alternate: a submission has at most one outcome, which is held just while
the handle lives and is what every reader gets; a dropped handle leaves a mark just until the outcome
arrives; and every slot belongs to a living handle or to a submission without outcome, so that a
stopped server whose handles are all dropped holds nothing. -/
theorem slots_exact {settings : QueueSettings} {events : List (Event τ)}
    (run : (create settings : Server τ).run? events = some s) :
    let h := (create settings : Server τ).history events
    Run.Always Deeds.Proper h →
    (∀ id, (h.outcomesOf id).length ≤ 1) ∧
    (∀ id outcome, s.pool.backend.slots.find? id = some (.done outcome) ↔
      h.outcomesOf id = [outcome] ∧ id ∈ h.handles) ∧
    (∀ id, s.pool.backend.slots.find? id = some .abandoned ↔
      id ∈ h.dropped ∧ h.outcomesOf id = []) ∧
    (∀ id, s.pool.backend.slots.find? id = none ↔ (id ∈ h.dropped ↔ h.outcomesOf id ≠ [])) ∧
    (∀ id outcome, id ∈ h.handles → h.outcomesOf id = [outcome] →
      ∀ limit timeUp, s.pool.backend.answer? id limit timeUp = some outcome) ∧
    s.pool.backend.size ≤ h.handles.length + h.unsettled.length ∧
    (s.phase = .stopped → h.unsettled = [] ∧ (h.handles = [] → s.pool.backend.size = 0)) := by
  intro h proper
  have kept : Kept s h := kept_of_run run
  have account := kept.account
  have agrees := kept.slots proper
  have once (id : TaskId) : (h.outcomesOf id).length ≤ 1 :=
    Nat.le_trans (account.outcomesOf_length_le id) (Deeds.timesAccepted_le_one proper id)
  have done (id : TaskId) (outcome : Outcome) :
      s.pool.backend.slots.find? id = some (.done outcome) ↔
        h.outcomesOf id = [outcome] ∧ id ∈ h.handles := by
    rw [agrees id, Deeds.slot?, Deeds.mem_handles]
    cases arrived : h.outcomesOf id with
    | nil => by_cases gone : id ∈ h.dropped <;> simp [gone]
    | cons first rest =>
      have alone := once id
      rw [arrived, List.length_cons] at alone
      have nothing : rest = [] := List.eq_nil_of_length_eq_zero (by omega)
      have accepted := account.accepted_of_outcome (by rw [arrived]; exact List.cons_ne_nil _ _)
      by_cases gone : id ∈ h.dropped <;> simp [gone, accepted, nothing]
  refine ⟨once, done, fun id => ?_, fun id => ?_, fun id outcome alive arrived limit timeUp => ?_,
    size_le account proper agrees, fun stopped => ⟨account.unsettled_eq_nil stopped, fun none => ?_⟩⟩
  · rw [agrees id, Deeds.slot?]
    cases h.outcomesOf id <;> by_cases gone : id ∈ h.dropped <;> simp [gone]
  · rw [agrees id, Deeds.slot?]
    cases h.outcomesOf id <;> by_cases gone : id ∈ h.dropped <;> simp [gone]
  · have held := (done id outcome).2 ⟨arrived, alive⟩
    simp [Backend.answer?, Backend.outcome?, held]
  · have most := size_le account proper agrees
    rw [none, account.unsettled_eq_nil stopped] at most
    exact Nat.le_zero.1 most

/-- Three submissions.  A worker settles the first; the handle of the second is dropped before its
outcome comes, that of the third after the shutdown has closed it. -/
def sampleHandles : List (Event Unit) :=
  [.register "ping" "ping" (), .start, .enqueue ⟨.ofNat 1⟩ "ping" .empty .epoch,
    .enqueue ⟨.ofNat 2⟩ "ping" .empty .epoch, .enqueue ⟨.ofNat 3⟩ "ping" .empty .epoch,
    .forget ⟨.ofNat 2⟩, .work (.wake 0), .work (.look 0), .work (.take 0), .work (.count 0),
    .work (.begin 0 .epoch), .work (.finish 0 (.returned .null)), .work (.uncount 0),
    .work (.store 0), .halt, .cancelWorkers, .closePool, .work (.rest 0), .work (.exit 0),
    .joinWorkers, .takePending, .closePending, .takePending, .closePending, .finish,
    .forget ⟨.ofNat 1⟩, .forget ⟨.ofNat 3⟩]

theorem sampleHandles_slots :
    let h := (create { workers := 1 }).history sampleHandles
    let early := (create { workers := 1 }).history (sampleHandles.take 14)
    (Run.Always Deeds.Proper early ∧
      ∃ s, (create { workers := 1 }).run? (sampleHandles.take 14) = some s ∧
        s.pool.backend.slots.find? ⟨.ofNat 1⟩ = some (.done (.ok .null)) ∧
        s.pool.backend.slots.find? ⟨.ofNat 2⟩ = some .abandoned ∧
        s.pool.backend.slots.find? ⟨.ofNat 3⟩ = none) ∧
    Run.Always Deeds.Proper h ∧
      ∃ s, (create { workers := 1 }).run? sampleHandles = some s ∧ s.phase = .stopped ∧
        h.handles = [] ∧ s.pool.backend.size = 0 := by
  intro h early
  have started : (create { workers := 1 }).run? (sampleHandles.take 14) = some _ := rfl
  have stopped : (create { workers := 1 }).run? sampleHandles = some _ := rfl
  have properEarly : Run.Always Deeds.Proper early := by decide +kernel
  have proper : Run.Always Deeds.Proper h := by decide +kernel
  have alive : (⟨.ofNat 1⟩ : TaskId) ∈ early.handles := by decide +kernel
  have gone : (⟨.ofNat 2⟩ : TaskId) ∈ early.dropped := by decide +kernel
  have kept : (⟨.ofNat 3⟩ : TaskId) ∉ early.dropped := by decide +kernel
  have none : h.handles = [] := by decide +kernel
  obtain ⟨-, done, abandoned, empty, -⟩ := slots_exact started properEarly
  obtain ⟨-, -, -, -, -, -, last⟩ := slots_exact stopped proper
  refine ⟨⟨properEarly, _, started, (done _ _).2 ⟨rfl, alive⟩, (abandoned _).2 ⟨gone, rfl⟩,
    (empty _).2 ⟨fun mem => absurd mem kept, fun arrived => absurd rfl arrived⟩⟩, proper, _,
    stopped, rfl, none, (last rfl).2 none⟩

end Server

end JobNode
