import JobNode.Proofs.Run
import JobNode.Queue.Startup

/-!
# Who waits for reports of refused starts

A refused start keeps the lock of the server until its channel has taken the report.  A channel that
had room when the call came takes it at once, so that nobody waits for a reader.  A channel that was
full suspends the call with the lock in its hands, and then no task is registered, no submission is
answered and the server does not stop until somebody reads that channel or gives it up.

* `SharedServer.step_of_apply`: what one step can do.
* `SharedServer.Locked.step`: the lock is kept by the call that reports, and by no other.
* `SharedServer.RoomKept.step`: a channel that had room has room for the report.
* `SharedServer.Suspended.step`: what can happen beside a suspended call.
* `SharedServer.suspended_by_full_channel`: every run.
-/

namespace JobNode

/-! ## Channels -/

namespace ReportChannel

variable {c : ReportChannel}

theorem hasRoom_read (room : c.hasRoom = true) : c.read.hasRoom = true := by
  unfold hasRoom read at *
  rw [Bool.or_eq_true, decide_eq_true_eq] at *
  rcases room with gone | fits
  · exact .inl gone
  · exact .inr (Nat.lt_of_le_of_lt (List.drop_sublist 1 c.unread).length_le fits)

theorem hasRoom_abandon : c.abandon.hasRoom = true := Bool.true_or _

end ReportChannel

namespace StartCall

/-- The call is over. -/
def isReturned : StartCall → Bool
  | returned _ => true
  | waiting _ | reporting _ _ | serving _ => false

/-- The call was refused and has not reported that yet. -/
def isReporting : StartCall → Bool
  | reporting _ _ => true
  | waiting _ | serving _ | returned _ => false

variable {call : StartCall} {f : ReportChannel → ReportChannel}

@[simp]
theorem channel_onChannel : (call.onChannel f).channel = f call.channel := by
  cases call <;> rfl

@[simp]
theorem isReturned_onChannel : (call.onChannel f).isReturned = call.isReturned := by
  cases call <;> rfl

@[simp]
theorem isReporting_onChannel : (call.onChannel f).isReporting = call.isReporting := by
  cases call <;> rfl

end StartCall

namespace SharedServer

open Run

variable {τ : Type} {s next last : SharedServer τ} {e : Event τ} {i : Nat}

/-! ## Steps -/

/-- What a step does. -/
inductive Step (s : SharedServer τ) : Event τ → SharedServer τ → Prop where
  | called (channel : ReportChannel) :
    Step s (.call channel) { s with calls := s.calls ++ [.waiting channel] }
  | accepted {i : Nat} {channel : ReportChannel} {server : Server τ}
    (at_ : s.calls[i]? = some (.waiting channel)) (free : s.holder = none)
    (start : s.server.start = .ok server) :
    Step s (.enter i) { s with server, calls := s.calls.set i (.serving channel) }
  | refused {i : Nat} {channel : ReportChannel} {refusal : QueueError}
    (at_ : s.calls[i]? = some (.waiting channel)) (free : s.holder = none)
    (start : s.server.start = .error refusal) :
    Step s (.enter i)
      { s with calls := s.calls.set i (.reporting refusal channel), holder := some i }
  | reported {i : Nat} {channel : ReportChannel} {refusal : QueueError}
    (at_ : s.calls[i]? = some (.reporting refusal channel)) (room : channel.hasRoom = true) :
    Step s (.report i)
      { s with calls := s.calls.set i (.returned (channel.put refusal)), holder := none }
  | read {i : Nat} {call : StartCall} (at_ : s.calls[i]? = some call) :
    Step s (.read i) { s with calls := s.calls.set i (call.onChannel .read) }
  | abandoned {i : Nat} {call : StartCall} (at_ : s.calls[i]? = some call) :
    Step s (.abandon i) { s with calls := s.calls.set i (call.onChannel .abandon) }
  | served {e : Server.Event τ} {server : Server τ} (free : needsLock e = true → s.holder = none)
    (happens : s.server.apply e = some server) : Step s (.server e) { s with server }

theorem step_of_apply (happens : s.apply e = some next) : Step s e next := by
  cases e with
  | call channel =>
    cases happens
    exact .called channel
  | enter i =>
    simp only [apply] at happens
    split at happens
    next channel at_ free =>
      split at happens
      next server start =>
        cases happens
        exact .accepted at_ free start
      next refusal start =>
        cases happens
        exact .refused at_ free start
    · cases happens
  | report i =>
    simp only [apply] at happens
    split at happens
    next refusal channel at_ =>
      split at happens
      next room =>
        cases happens
        exact .reported at_ room
      · cases happens
    · cases happens
  | read i =>
    obtain ⟨call, at_, rfl⟩ := Option.map_eq_some_iff.1 happens
    exact .read at_
  | abandon i =>
    obtain ⟨call, at_, rfl⟩ := Option.map_eq_some_iff.1 happens
    exact .abandoned at_
  | server e =>
    simp only [apply] at happens
    split at happens
    · cases happens
    next e _ =>
      split at happens
      · cases happens
      next free =>
        obtain ⟨server, moves, rfl⟩ := Option.map_eq_some_iff.1 happens
        refine .served (fun needs => ?_) moves
        rw [needs, Bool.true_and, Bool.not_eq_true, Option.isSome_eq_false_iff,
          Option.isNone_iff_eq_none] at free
        exact free

/-! ## The lock -/

/-- The call was refused and has not reported that yet. -/
def ReportsAt (calls : List StartCall) (i : Nat) : Prop :=
  ∃ call, calls[i]? = some call ∧ call.isReporting = true

section ReportsAt

variable {calls : List StartCall} {call call' : StartCall} {j : Nat}

theorem reportsAt_of_getElem? (at_ : calls[i]? = some call) :
    ReportsAt calls i ↔ call.isReporting = true := by
  constructor
  · rintro ⟨other, there, reports⟩
    rw [at_] at there
    cases there
    exact reports
  · exact fun reports => ⟨call, at_, reports⟩

theorem reportsAt_set_of_ne (ne : i ≠ j) : ReportsAt (calls.set i call) j ↔ ReportsAt calls j := by
  unfold ReportsAt
  rw [List.getElem?_set_ne ne]

theorem getElem?_set_of_some (at_ : calls[i]? = some call) :
    (calls.set i call')[i]? = some call' :=
  List.getElem?_set_self (List.getElem?_eq_some_iff.1 at_).1

theorem reportsAt_set (at_ : calls[i]? = some call) (same : call'.isReporting = call.isReporting) :
    ReportsAt (calls.set i call') j ↔ ReportsAt calls j := by
  by_cases ne : i = j
  · subst ne
    rw [reportsAt_of_getElem? at_, reportsAt_of_getElem? (getElem?_set_of_some at_), same]
  · exact reportsAt_set_of_ne ne

theorem reportsAt_concat (quiet : call.isReporting = false) :
    ReportsAt (calls ++ [call]) j ↔ ReportsAt calls j := by
  unfold ReportsAt
  rw [List.getElem?_append]
  split
  · rfl
  next beyond =>
    -- there is no old call at `j`, and the new one is quiet
    rw [List.getElem?_eq_none (Nat.le_of_not_lt beyond)]
    constructor
    · rintro ⟨other, at_, reports⟩
      rw [List.mem_singleton.1 (List.mem_of_getElem? at_), quiet] at reports
      cases reports
    · rintro ⟨other, at_, -⟩
      cases at_

end ReportsAt

/-- The lock is kept by the call that has to report, if there is one. -/
def Locked (s : SharedServer τ) : Prop := ∀ i, s.holder = some i ↔ ReportsAt s.calls i

theorem locked_create (settings : QueueSettings) : (create settings : SharedServer τ).Locked := by
  intro i
  constructor
  · intro held
    cases held
  · rintro ⟨call, at_, -⟩
    cases at_

theorem Locked.step (locked : s.Locked) (step : Step s e next) : next.Locked := by
  intro j
  cases step with
  | called channel =>
    rw [locked j]
    exact (reportsAt_concat rfl).symm
  | @accepted i channel server at_ free start =>
    have quiet : (StartCall.serving channel).isReporting =
      (StartCall.waiting channel).isReporting := rfl
    rw [locked j]
    exact (reportsAt_set at_ quiet).symm
  | @refused i channel refusal at_ free start =>
    by_cases same : i = j
    · subst same
      exact iff_of_true rfl ((reportsAt_of_getElem? (getElem?_set_of_some at_)).2 rfl)
    · -- nobody else held the lock before
      rw [reportsAt_set_of_ne same, ← locked j, free]
      exact iff_of_false (fun held => same (Option.some.inj held)) nofun
  | @reported i channel refusal at_ room =>
    have held : s.holder = some i := (locked i).2 ((reportsAt_of_getElem? at_).2 rfl)
    refine iff_of_false nofun fun reports => ?_
    by_cases same : i = j
    · subst same
      exact nomatch (reportsAt_of_getElem? (getElem?_set_of_some at_)).1 reports
    · rw [reportsAt_set_of_ne same, ← locked j, held] at reports
      exact same (Option.some.inj reports)
  | read at_ =>
    rw [locked j]
    exact (reportsAt_set at_ StartCall.isReporting_onChannel).symm
  | abandoned at_ =>
    rw [locked j]
    exact (reportsAt_set at_ StartCall.isReporting_onChannel).symm
  | served free happens => exact locked j

/-! ## Room for reports -/

/-- The channel of a call that comes in. -/
def Event.channel? : Event τ → Option ReportChannel
  | call channel => some channel
  | enter _ | report _ | read _ | abandon _ | server _ => none

/-- The channels of the calls, as they were when the calls came in. -/
def channels (steps : List (Event τ)) : List ReportChannel := steps.filterMap Event.channel?

/-- A channel that had room when its call came in has room until the call is over. -/
structure RoomKept (given : List ReportChannel) (calls : List StartCall) : Prop where
  length : given.length = calls.length
  room : ∀ {i : Nat} {channel : ReportChannel} {call : StartCall}, given[i]? = some channel →
    calls[i]? = some call → call.isReturned = false → channel.hasRoom = true →
    call.channel.hasRoom = true

section RoomKept

variable {given : List ReportChannel} {calls : List StartCall} {call call' : StartCall}

theorem RoomKept.concat (kept : RoomKept given calls) (channel : ReportChannel) :
    RoomKept (given ++ [channel]) (calls ++ [.waiting channel]) := by
  refine ⟨by rw [List.length_append, List.length_append, kept.length]; rfl, ?_⟩
  intro i given_ call came at_ goesOn room
  rw [List.getElem?_append] at came at_
  rw [kept.length] at came
  split at came
  next before =>
    rw [if_pos before] at at_
    exact kept.room came at_ goesOn room
  next beyond =>
    rw [if_neg beyond] at at_
    rw [List.mem_singleton.1 (List.mem_of_getElem? came)] at room
    rw [List.mem_singleton.1 (List.mem_of_getElem? at_)]
    exact room

theorem RoomKept.set (kept : RoomKept given calls) (at_ : calls[i]? = some call)
    (goesOn : call'.isReturned = false → call.isReturned = false)
    (room : call'.isReturned = false → call.channel.hasRoom = true → call'.channel.hasRoom = true) :
    RoomKept given (calls.set i call') := by
  refine ⟨by rw [List.length_set, kept.length], ?_⟩
  intro j channel other came there now roomy
  by_cases same : i = j
  · subst same
    rw [getElem?_set_of_some at_] at there
    cases there
    exact room now (kept.room came at_ (goesOn now) roomy)
  · rw [List.getElem?_set_ne same] at there
    exact kept.room came there now roomy

end RoomKept

theorem channels_concat {steps : List (Event τ)} (none : e.channel? = none) :
    channels (steps ++ [e]) = channels steps := by
  rw [channels, List.filterMap_append, List.filterMap_cons_none none]
  exact List.append_nil _

theorem RoomKept.step {steps : List (Event τ)} (kept : RoomKept (channels steps) s.calls)
    (step : Step s e next) : RoomKept (channels (steps ++ [e])) next.calls := by
  cases step with
  | called channel =>
    rw [channels, List.filterMap_append]
    exact kept.concat channel
  | accepted at_ free start =>
    rw [channels_concat rfl]
    exact kept.set at_ (fun _ => rfl) (fun _ => id)
  | refused at_ free start =>
    rw [channels_concat rfl]
    exact kept.set at_ (fun _ => rfl) (fun _ => id)
  | reported at_ room =>
    rw [channels_concat rfl]
    exact kept.set at_ nofun nofun
  | read at_ =>
    rw [channels_concat rfl]
    refine kept.set at_ (fun now => ?_) (fun _ room => ?_)
    · rwa [StartCall.isReturned_onChannel] at now
    · rw [StartCall.channel_onChannel]
      exact ReportChannel.hasRoom_read room
  | abandoned at_ =>
    rw [channels_concat rfl]
    refine kept.set at_ (fun now => ?_) (fun _ _ => ?_)
    · rwa [StartCall.isReturned_onChannel] at now
    · rw [StartCall.channel_onChannel]
      exact ReportChannel.hasRoom_abandon
  | served free happens =>
    rw [channels_concat rfl]
    exact kept

/-! ## Waiting for a reader -/

/-- A refused call waits until its channel takes the report. -/
def Suspended (s : SharedServer τ) (i : Nat) : Prop :=
  ∃ refusal channel, s.calls[i]? = some (.reporting refusal channel) ∧ channel.hasRoom = false

/-- Somebody reads the report of a call, or gives that up. -/
def Event.reads (i : Nat) : Event τ → Prop
  | read j | abandon j => j = i
  | call _ | enter _ | report _ | server _ => False

/-- The step needs the lock of the server. -/
def Event.takesLock : Event τ → Bool
  | enter _ | report _ => true
  | server e => needsLock e
  | call _ | read _ | abandon _ => false

theorem Suspended.holds (suspended : s.Suspended i) (locked : s.Locked) : s.holder = some i := by
  obtain ⟨refusal, channel, at_, -⟩ := suspended
  exact (locked i).2 ((reportsAt_of_getElem? at_).2 rfl)

/-- A call that was given a channel with room is not suspended. -/
theorem Suspended.channel_full {given : List ReportChannel} (suspended : s.Suspended i)
    (kept : RoomKept given s.calls) :
    ∃ channel, given[i]? = some channel ∧ channel.hasRoom = false := by
  obtain ⟨refusal, channel, at_, full⟩ := suspended
  have bound : i < given.length := by
    rw [kept.length]
    exact (List.getElem?_eq_some_iff.1 at_).1
  refine ⟨given[i], List.getElem?_eq_getElem bound, ?_⟩
  by_contra room
  rw [Bool.not_eq_false] at room
  have now := kept.room (List.getElem?_eq_getElem bound) at_ rfl room
  rw [StartCall.channel, full] at now
  cases now

/-- While nobody reads its report, a suspended call stays so and keeps everyone from the lock. -/
theorem Suspended.step (suspended : s.Suspended i) (locked : s.Locked) (step : Step s e next)
    (unread : ¬ e.reads i) : next.Suspended i ∧ e.takesLock = false := by
  have held : s.holder = some i := suspended.holds locked
  obtain ⟨refusal, channel, at_, full⟩ := suspended
  cases step with
  | called new =>
    refine ⟨⟨refusal, channel, ?_, full⟩, rfl⟩
    rw [List.getElem?_append_left (List.getElem?_eq_some_iff.1 at_).1]
    exact at_
  | accepted _ free _ => cases held.symm.trans free
  | refused _ free _ => cases held.symm.trans free
  | @reported j other _ there room =>
    -- only the holder reports, and its channel is full
    have holder : s.holder = some j := (locked j).2 ((reportsAt_of_getElem? there).2 rfl)
    cases held.symm.trans holder
    cases at_.symm.trans there
    cases full.symm.trans room
  | read _ => exact ⟨⟨refusal, channel, (List.getElem?_set_ne unread).trans at_, full⟩, rfl⟩
  | abandoned _ => exact ⟨⟨refusal, channel, (List.getElem?_set_ne unread).trans at_, full⟩, rfl⟩
  | served free happens =>
    refine ⟨⟨refusal, channel, at_, full⟩, ?_⟩
    rw [Event.takesLock, Bool.eq_false_iff]
    intro needs
    cases held.symm.trans (free needs)

theorem Suspended.run {later : List (Event τ)} (suspended : s.Suspended i) (locked : s.Locked)
    (run : last? apply s later = some last) (unread : ∀ e ∈ later, ¬ e.reads i) :
    last.Suspended i ∧ ∀ e ∈ later, e.takesLock = false := by
  induction later generalizing s with
  | nil =>
    cases run
    exact ⟨suspended, List.forall_mem_nil _⟩
  | cons e rest ih =>
    rw [last?] at run
    cases happens : s.apply e with
    | none => simp [happens] at run
    | some next =>
      rw [happens] at run
      have step := step_of_apply happens
      obtain ⟨unreadNow, unreadLater⟩ := List.forall_mem_cons.1 unread
      obtain ⟨stays, waits⟩ := suspended.step locked step unreadNow
      obtain ⟨still, waitLater⟩ := ih stays (locked.step step) run unreadLater
      exact ⟨still, List.forall_mem_cons.2 ⟨waits, waitLater⟩⟩

/-- A refused call whose channel is full gets the lock, and waits with it. -/
theorem suspended_of_refused {channel : ReportChannel} {refusal : QueueError}
    (at_ : s.calls[i]? = some (.waiting channel)) (free : s.holder = none)
    (refused : s.server.start = .error refusal) (full : channel.hasRoom = false) :
    ∃ next, s.apply (.enter i) = some next ∧ next.Suspended i := by
  refine ⟨⟨s.server, s.calls.set i (.reporting refusal channel), some i⟩, ?_,
    refusal, channel, getElem?_set_of_some at_, full⟩
  simp only [apply, at_, free, refused]

/-- The server takes a step, before any report is read or given up. -/
def ServedUnread (s : SharedServer τ) (e : Server.Event τ) : Prop :=
  ∃ before next, (∀ d ∈ before, ∀ i, ¬ d.reads i) ∧
    last? apply s (before ++ [.server e]) = some next ∧ s.server.apply e = some next.server

section ServedUnread

variable {e : Server.Event τ} {server : Server τ}

theorem apply_server (free : s.holder = none) (needs : needsLock e = true)
    (happens : s.server.apply e = some server) :
    s.apply (.server e) = some { s with server } := by
  cases e with
  | register | enqueue | halt => simp [apply, free, happens]
  | _ => cases needs

theorem servedUnread_after {before : List (Event τ)} {mid : SharedServer τ}
    (run : last? apply s before = some mid) (unread : ∀ d ∈ before, ∀ i, ¬ d.reads i)
    (free : mid.holder = none) (same : mid.server = s.server) (needs : needsLock e = true)
    (happens : s.server.apply e = some server) : s.ServedUnread e := by
  refine ⟨before, { mid with server }, unread, ?_, happens⟩
  rw [← same] at happens
  rw [last?_append run, last?, apply_server free needs happens]
  rfl

theorem servedUnread_iff (locked : s.Locked) (needs : needsLock e = true)
    (happens : s.server.apply e = some server) :
    s.ServedUnread e ↔ ∀ i, ¬ s.Suspended i := by
  constructor
  · rintro ⟨before, next, unread, run, -⟩ i suspended
    have waits := (suspended.run locked run ?_).2 (.server e) (by simp)
    · cases needs.symm.trans waits
    · intro d mem
      rcases List.mem_append.1 mem with old | new
      · exact unread d old i
      · rw [List.mem_singleton.1 new]
        exact id
  · intro never
    cases held : s.holder with
    | none => exact servedUnread_after rfl (List.forall_mem_nil _) held rfl needs happens
    | some i =>
      -- the holder has room for its report, and releases the lock with it
      obtain ⟨call, at_, reports⟩ := (locked i).1 held
      cases call with
      | reporting refusal channel =>
        have room : channel.hasRoom = true := by
          by_contra full
          exact never i ⟨refusal, channel, at_, Bool.not_eq_true _ ▸ full⟩
        have released : last? apply s [.report i] =
            some ⟨s.server, s.calls.set i (.returned (channel.put refusal)), none⟩ := by
          simp only [last?, apply, at_, room, if_true]
        refine servedUnread_after released ?_ rfl rfl needs happens
        intro d mem
        rw [List.mem_singleton.1 mem]
        exact fun _ => id
      | waiting | serving | returned => cases reports

end ServedUnread

section Run

variable {settings : QueueSettings} {steps : List (Event τ)}

theorem locked_of_run (run : last? apply (create settings) steps = some s) :
    s.Locked ∧ RoomKept (channels steps) s.calls := by
  refine events_induction (fun s steps => s.Locked ∧ RoomKept (channels steps) s.calls) ?_
    ⟨locked_create settings, rfl, nofun⟩ run
  rintro s next e steps ⟨locked, kept⟩ happens
  have step := step_of_apply happens
  exact ⟨locked.step step, kept.step step⟩

/-- Whoever waits for a reader holds the lock and was given a channel that was full, and waits on
until its report is read or given up; until then nobody takes the lock.  The server answers, without
a reader, just while nobody waits for one. -/
theorem suspended_by_full_channel (run : last? apply (create settings) steps = some s) :
    (∀ i, s.Suspended i → s.holder = some i ∧
      (∃ channel, (channels steps)[i]? = some channel ∧ channel.hasRoom = false) ∧
      ∀ later last, last? apply s later = some last → (∀ e ∈ later, ¬ e.reads i) →
        last.Suspended i ∧ ∀ e ∈ later, e.takesLock = false) ∧
    ∀ e server, needsLock e = true → s.server.apply e = some server →
      (s.ServedUnread e ↔ ∀ i, ¬ s.Suspended i) := by
  obtain ⟨locked, kept⟩ := locked_of_run run
  refine ⟨fun i suspended => ⟨suspended.holds locked, suspended.channel_full kept, ?_⟩, ?_⟩
  · exact fun later last run unread => suspended.run locked run unread
  · exact fun e server needs happens => servedUnread_iff locked needs happens

/-- A server whose callers give channels with room answers without a reader. -/
theorem servedUnread_of_room (run : last? apply (create settings) steps = some s)
    (room : ∀ channel ∈ channels steps, channel.hasRoom = true) {e : Server.Event τ}
    {server : Server τ} (needs : needsLock e = true) (happens : s.server.apply e = some server) :
    s.ServedUnread e := by
  obtain ⟨locked, kept⟩ := locked_of_run run
  refine (servedUnread_iff locked needs happens).2 fun i suspended => ?_
  obtain ⟨channel, at_, full⟩ := suspended.channel_full kept
  cases full.symm.trans (room channel (List.mem_of_getElem? at_))

end Run

/-- The server runs, and another start with a full channel is refused. -/
def lockedOut : List (Event Unit) :=
  [.call (.create 1), .enter 0, .call ⟨1, [.alreadyStarted], false⟩, .enter 1]

/-- No submission is answered, although the server runs. -/
theorem lockedOut_not_served :
    ∃ s, last? apply (create {}) lockedOut = some s ∧ s.server.phase = .running ∧ s.Suspended 1 ∧
      ∀ id task params now, ¬ s.ServedUnread (.enqueue id task params now) := by
  obtain ⟨s, run, phase, suspended⟩ : ∃ s, last? apply (create {}) lockedOut = some s ∧
      s.server.phase = .running ∧ s.Suspended 1 :=
    ⟨_, rfl, rfl, .alreadyStarted, ⟨1, [.alreadyStarted], false⟩, rfl, rfl⟩
  refine ⟨s, run, phase, suspended, fun id task params now served => ?_⟩
  have ⟨_, _, _, _, happens⟩ := served
  exact (servedUnread_iff (locked_of_run run).1 rfl happens).1 served 1 suspended

end SharedServer

end JobNode
