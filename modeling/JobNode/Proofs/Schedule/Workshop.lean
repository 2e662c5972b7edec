import JobNode.Proofs.Manager.Reaching
import JobNode.Proofs.Schedule.Threads
import JobNode.Schedule.Client

/-!
# Workshops are traffic

A workshop carries out whole procedures at a time, and its schedule says whose turn it is.  Both are
choices among the runs of `Manager.Traffic`: with jobs in memory, whatever a workshop comes to is
what some traffic comes to, so that what holds of all traffic holds of every workshop.

* `Workshop.Shows`: a workshop shows how far some traffic has come.
* `Workshop.Leads`: where one workshop leads to another, any traffic that the first shows can go on
  to one that the second shows.
* `Workshop.keeps_leads`: every turn leads somewhere, and so does every run of threads.
* `Client.execute_leads` and its like: so does everything that a client does with the manager.
* `Workshop.exists_traffic`: what a workshop comes to, some traffic comes to.
-/

namespace JobNode

/-- The call of an execution whose work was started. -/
def Manager.Stage.call? : Stage → Option Call
  | .running call _ => some call
  | _ => none

namespace Schedule

open Manager

namespace Workshop

open Run (Reaches)

variable {s mid next : Workshop} {t : Traffic}

/-! ## What a workshop shows -/

/-- A workshop with jobs in memory shows how far traffic has come: the jobs, the calls whose work was
started, and the messages. -/
structure Shows (s : Workshop) (t : Traffic) : Prop where
  store : s.store = .memory t.memory
  calls : t.executions.filterMap (·.stage.call?) = s.calls.map WatchedCall.call
  deliveries : s.deliveries = t.deliveries

theorem create_shows (settings : JobSettings) (sender : Sender) (faults : Faults) :
    Shows (create settings .memory sender faults) (.create .empty settings.maxInflight) :=
  ⟨rfl, rfl, rfl⟩

/-- Whatever traffic the first workshop shows can go on to traffic that the second shows. -/
def Leads (s next : Workshop) : Prop :=
  ∀ t, Shows s t → ∃ last, Reaches Traffic.apply t last ∧ Shows next last

theorem Leads.refl (s : Workshop) : Leads s s := fun t before => ⟨t, .refl t, before⟩

theorem Leads.trans (first : Leads s mid) (later : Leads mid next) : Leads s next := by
  intro t before
  obtain ⟨t', run, between⟩ := first t before
  obtain ⟨last, more, after⟩ := later t' between
  exact ⟨last, run.trans more, after⟩

/-- What the traffic does not know of may change. -/
theorem Leads.of_same (store : next.store = s.store)
    (calls : next.calls.map WatchedCall.call = s.calls.map WatchedCall.call)
    (deliveries : next.deliveries = s.deliveries) : Leads s next := by
  intro t before
  refine ⟨t, .refl t, ?_, ?_, ?_⟩
  · rw [store, before.store]
  · rw [calls, before.calls]
  · rw [deliveries, before.deliveries]

/-! ## Procedures -/

theorem surroundings_get (now : Nat) (s : Workshop) (key : JobKey) :
    (surroundings now).get s key =
      (match s.faults.get.lookup (s.gets + 1) with
        | some cause => .error cause
        | none => s.store.get key,
        { s with gets := s.gets + 1 }) := by
  simp only [surroundings]
  cases s.faults.get.lookup (s.gets + 1) <;> rfl

/-- A save into memory looks at the calendar and succeeds, unless it is bound to fail. -/
theorem surroundings_save (now : Nat) {s : Workshop} {m : Memory} (store : s.store = .memory m)
    (job : Job) :
    (surroundings now).save s job =
      match s.faults.save.lookup (s.saves + 1) with
      | some cause => (.error cause, { s with saves := s.saves + 1 })
      | none =>
        (.ok (),
          { s with saves := s.saves + 1, looks := s.looks + 1, store := .memory (m.save job) }) := by
  simp only [surroundings]
  cases s.faults.save.lookup (s.saves + 1) with
  | some cause => rfl
  | none => simp only [saveJob, look, store, Store.save]

/-- A procedure that a workshop carries out gets answers up to its end, and changes nothing but the
jobs. -/
theorem exists_advances {α : Type} (now : Nat) (p : Procedure α) {s : Workshop} {m : Memory}
    (store : s.store = .memory m) :
    ∃ replies m',
      p.advances? m replies = some (.done (s.carryOut now p).1, m') ∧
      (s.carryOut now p).2.store = .memory m' ∧
      (s.carryOut now p).2.calls = s.calls ∧
      (s.carryOut now p).2.deliveries = s.deliveries := by
  -- a fault is an answer of the store like any other
  induction p generalizing s m with
  | done a => exact ⟨[], m, rfl, store, rfl, rfl⟩
  | get key next ih =>
    have served : s.carryOut now (.get key next) =
        ((surroundings now).get s key).2.carryOut now (next ((surroundings now).get s key).1) := rfl
    rw [served, surroundings_get]
    cases s.faults.get.lookup (s.gets + 1) with
    | some cause =>
      obtain ⟨replies, m', run, rest⟩ := ih (.error cause) (s := { s with gets := s.gets + 1 }) store
      exact ⟨.failed cause :: replies, m', run, rest⟩
    | none =>
      obtain ⟨replies, m', run, rest⟩ :=
        ih (s.store.get key) (s := { s with gets := s.gets + 1 }) store
      refine ⟨.served :: replies, m', ?_, rest⟩
      rw [← run, store]
      rfl
  | save job next ih =>
    have served : s.carryOut now (.save job next) =
        ((surroundings now).save s job).2.carryOut now
          (next ((surroundings now).save s job).1) := rfl
    rw [served, surroundings_save now store]
    cases s.faults.save.lookup (s.saves + 1) with
    | some cause =>
      obtain ⟨replies, m', run, rest⟩ :=
        ih (.error cause) (s := { s with saves := s.saves + 1 }) store
      exact ⟨.failed cause :: replies, m', run, rest⟩
    | none =>
      obtain ⟨replies, m', run, rest⟩ := ih (.ok ())
        (s := { s with
          saves := s.saves + 1, looks := s.looks + 1, store := .memory (m.save job) }) rfl
      exact ⟨.served :: replies, m', run, rest⟩
  | now next ih =>
    obtain ⟨replies, m', run, rest⟩ := ih (s.look now).1 (s := (s.look now).2) store
    exact ⟨.time (s.look now).1 :: replies, m', run, rest⟩
  | newId next ih =>
    obtain ⟨replies, m', run, rest⟩ :=
      ih ⟨freshUuid s.identifiers⟩ (s := { s with identifiers := s.identifiers + 1 }) store
    exact ⟨.identifier ⟨freshUuid s.identifiers⟩ :: replies, m', run, rest⟩

/-- What becomes of the answer does not change the workshop. -/
theorem carryOut_bind_done {α β : Type} (s : Workshop) (now : Nat) (p : Procedure α) (f : α → β) :
    (s.carryOut now (p.bind fun a => .done (f a))).2 = (s.carryOut now p).2 := by
  rw [carryOut, Procedure.run_bind]
  rfl

theorem operate_leads (s : Workshop) (now : Nat) (o : Operation) :
    Leads s (s.carryOut now o.procedure).2 := by
  intro t before
  obtain ⟨replies, m', run, store, calls, deliveries⟩ :=
    exists_advances now o.procedure before.store
  refine ⟨_, Traffic.reaches_operate t o run, store, ?_, ?_⟩
  · rw [calls, before.calls]
  · rw [deliveries, before.deliveries]

theorem updateTask_leads (s : Workshop) (now : Nat) (key : JobKey) (status : Status)
    (task message : String) : Leads s (s.carryOut now (updateTask key status task message)).2 := by
  have leads := operate_leads s now (.updateTask key status task message)
  rw [Operation.procedure, carryOut_bind_done] at leads
  exact leads

theorem updateValue_leads (s : Workshop) (now : Nat) (key : JobKey) (name : String)
    (bytes : List UInt8) : Leads s (s.carryOut now (updateValue key name bytes)).2 := by
  have leads := operate_leads s now (.updateValue key name bytes)
  rw [Operation.procedure, carryOut_bind_done] at leads
  exact leads

theorem getJob_leads (s : Workshop) (now : Nat) (key : JobKey) :
    Leads s (s.carryOut now (getJob key)).2 := by
  have leads := operate_leads s now (.read key)
  rw [Operation.procedure, carryOut_bind_done] at leads
  exact leads

theorem getStatus_leads (s : Workshop) (now : Nat) (key : JobKey) :
    Leads s (s.carryOut now (getStatus key)).2 := by
  have leads := getJob_leads s now key
  rw [← carryOut_bind_done s now (getJob key) (·.map Job.statusReport)] at leads
  exact leads

/-! ## Calls -/

/-- What a list picks at some place comes from some place, and changes with it. -/
theorem exists_of_getElem?_filterMap {α β : Type} {f : α → Option β} {l : List α} {i : Nat} {b : β}
    (at_ : (l.filterMap f)[i]? = some b) :
    ∃ j a, l[j]? = some a ∧ f a = some b ∧
      ∀ a' b', f a' = some b' → (l.set j a').filterMap f = (l.filterMap f).set i b' := by
  induction l generalizing i with
  | nil => simp at at_
  | cons first rest ih =>
    cases picked : f first with
    | none =>
      rw [List.filterMap_cons_none picked] at at_
      obtain ⟨j, a, found, own, changes⟩ := ih at_
      refine ⟨j + 1, a, found, own, fun a' b' own' => ?_⟩
      rw [List.set_cons_succ, List.filterMap_cons_none picked, List.filterMap_cons_none picked]
      exact changes a' b' own'
    | some c =>
      rw [List.filterMap_cons_some picked] at at_ ⊢
      cases i with
      | zero =>
        cases at_
        refine ⟨0, first, rfl, picked, fun a' b' own' => ?_⟩
        rw [List.set_cons_zero, List.filterMap_cons_some own', List.set_cons_zero]
      | succ i =>
        obtain ⟨j, a, found, own, changes⟩ := ih at_
        refine ⟨j + 1, a, found, own, fun a' b' own' => ?_⟩
        rw [List.set_cons_succ, List.filterMap_cons_some picked, List.set_cons_succ,
          changes a' b' own']

theorem calls_setCall (s : Workshop) (i : Nat) (call : Call) :
    (s.setCall i call).calls.map WatchedCall.call = (s.calls.map WatchedCall.call).set i call := by
  refine List.ext_getElem? fun j => ?_
  by_cases own : i = j
  · subst own
    cases found : s.calls[i]? <;> simp [setCall, List.getElem?_set_self', found]
  · simp [setCall, own]

/-- The execution of a call that a workshop shows. -/
theorem Shows.exists_execution (before : Shows s t) {i : Nat} {call : Call}
    (at_ : s.call? i = some call) :
    ∃ j x finalizer?, t.executions[j]? = some x ∧ x.stage = .running call finalizer? ∧
      ∀ y next, y.stage.call? = some next →
        (t.executions.set j y).filterMap (·.stage.call?) =
          (s.calls.map WatchedCall.call).set i next := by
  rw [call?, ← List.getElem?_map, ← before.calls] at at_
  obtain ⟨j, x, found, own, changes⟩ := exists_of_getElem?_filterMap at_
  rw [before.calls] at changes
  obtain ⟨r, stage⟩ := x
  cases stage with
  | opening rest c => cases own
  | refused cause => cases own
  | running call' finalizer? =>
    cases own
    exact ⟨j, _, finalizer?, found, rfl, changes⟩

/-- A step of one call that leaves jobs and messages alone. -/
theorem Leads.setCall {i : Nat} {call next : Call} (at_ : s.call? i = some call)
    {e : Execution.Event} (silent : ∀ d x, Traffic.announce d x e = d)
    (moves : ∀ (x : Execution) (finalizer? : Option (Branch × Procedure Finalized)) (m : Memory),
      x.stage = .running call finalizer? →
        x.apply m e = some ({ x with stage := .running next finalizer? }, m)) :
    Leads s (s.setCall i next) := by
  intro t before
  obtain ⟨j, x, finalizer?, found, stage, changes⟩ := before.exists_execution at_
  refine ⟨_, .one (Traffic.apply_execution found (moves x finalizer? t.memory stage)), ?_⟩
  refine ⟨before.store, ?_, ?_⟩
  · rw [calls_setCall]
    exact changes _ _ rfl
  · rw [silent]
    exact before.deliveries

theorem cancel_leads {i : Nat} {call : Call} (at_ : s.call? i = some call) :
    Leads s (s.setCall i call.cancel) :=
  .setCall at_ (e := .cancel) (fun _ _ => rfl) fun x finalizer? m stage => by
    simp only [Execution.apply, Execution.cancel, stage]

theorem stopListening_leads {i : Nat} {call : Call} (at_ : s.call? i = some call) :
    Leads s (s.setCall i call.stopListening) :=
  .setCall at_ (e := .stopListening) (fun _ _ => rfl) fun x finalizer? m stage => by
    simp only [Execution.apply, Execution.stopListening?, stage, Option.map_some]

/-- Work ends once; to end it again changes nothing. -/
theorem endWork_leads {i : Nat} {call : Call} (at_ : s.call? i = some call) (last : WorkEnd) :
    Leads s (s.setCall i (call.endWork last)) := by
  cases work : call.work with
  | none =>
    exact .setCall at_ (e := .endWork last) (fun _ _ => rfl) fun x finalizer? m stage => by
      simp only [Execution.apply, Execution.endWork?, stage, work, Option.map_some]
  | some first =>
    have same : call.endWork last = call := by rw [Call.endWork, work, Option.some_or, ← work]
    refine .of_same rfl ?_ rfl
    rw [calls_setCall, same]
    rw [call?, ← List.getElem?_map] at at_
    obtain ⟨inRange, eq⟩ := List.getElem?_eq_some_iff.1 at_
    rw [← eq, List.set_getElem_self]

theorem receive_leads (s : Workshop) (i : Nat) : Leads s (s.receive i).2 := by
  unfold receive
  split
  · exact .refl s
  next call at_ =>
    split
    next listening =>
      refine .setCall at_ (e := .receive) (fun _ _ => rfl) fun x finalizer? m stage => ?_
      simp only [Execution.apply, Execution.receive?, stage, listening, if_true, Option.map_some]
    · exact .refl s

/-- A request whose job was opened enters, and is cancelled if its signal was given before. -/
theorem execute_leads (s : Workshop) (now : Nat) (r : Workshop.Request) :
    Leads s (s.execute now r).2.2 := by
  intro t before
  let asked : Manager.Request := ⟨r.account, r.existing, r.description⟩
  obtain ⟨replies, m', run, store, calls, deliveries⟩ :=
    exists_advances now (openJob r.account r.existing r.description) before.store
  have opened := Traffic.reaches_request t asked run
  rw [execute]
  cases answered : s.carryOut now (openJob r.account r.existing r.description) with
  | mk answer s' =>
    rw [answered] at opened store calls deliveries
    cases answer with
    | error cause =>
      refine ⟨_, opened, store, ?_, ?_⟩
      · rw [List.filterMap_append, before.calls, calls]
        exact List.append_nil _
      · rw [deliveries, before.deliveries]
    | ok opened' =>
      obtain ⟨job, created⟩ := opened'
      have entered := Traffic.reaches_enter { t with memory := m' } t.executions asked job created
        (r.signal?.any s'.isGiven)
      refine ⟨_, opened.trans entered, store, ?_, ?_⟩
      · rw [List.filterMap_append, before.calls, ← calls, List.map_append]
        rfl
      · rw [← before.deliveries, ← deliveries]

/-! ## Finalizers -/

/-- A call that has chosen its way sends the outcome. -/
theorem exists_finish_of_choose {call chosen : Call} {branch : Branch}
    (way : call.choose? = some (branch, chosen)) (f : Finalized) :
    ∃ next, chosen.finish? f = some next := by
  unfold Call.choose? at way
  split at way
  · obtain ⟨b, -, same⟩ := Option.map_eq_some_iff.1 way
    cases same
    exact ⟨_, rfl⟩
  · cases way

/-- To announce a finalized job is what the traffic does when the outcome is sent. -/
theorem announce_deliveries (s : Workshop) (now : Nat) (a : Assignment) (f : Finalized) :
    (s.announce now a f).state.deliveries =
      match announcement? a f (s.look now).1 with
      | some message => s.deliveries.dispatch message
      | none => s.deliveries := by
  simp only [announce, look]
  cases announcement? a f (dateAt now s.looks) <;> rfl

theorem announce_same (s : Workshop) (now : Nat) (a : Assignment) (f : Finalized) :
    (s.announce now a f).state.store = s.store ∧ (s.announce now a f).state.calls = s.calls := by
  simp only [announce, look]
  cases announcement? a f (dateAt now s.looks) <;> exact ⟨rfl, rfl⟩

/-- A finalizer chooses its way, gets its answers and sends the outcome. -/
theorem finalizerTurn_leads (s : Workshop) (now i : Nat) :
    Leads s (s.finalizerTurn now i).state := by
  unfold finalizerTurn
  split
  · exact .refl s
  next call at_ =>
    split
    · exact .refl s
    next branch chosen way =>
      intro t before
      obtain ⟨j, x, finalizer?, found, stage, changes⟩ := before.exists_execution at_
      obtain ⟨replies, m', run, store, calls, deliveries⟩ :=
        exists_advances now (finalize chosen.assignment branch) before.store
      cases answered : s.carryOut now (finalize chosen.assignment branch) with
      | mk f s' =>
        rw [answered] at run store calls deliveries
        obtain ⟨next, sent⟩ := exists_finish_of_choose way f
        refine ⟨_, Traffic.reaches_finish t found stage way run sent (s'.look now).1, ?_, ?_, ?_⟩
        · rw [(announce_same _ now _ f).1]
          exact store
        · rw [(announce_same _ now _ f).2, sent, Option.getD_some, calls_setCall, calls]
          exact changes _ _ rfl
        · rw [announce_deliveries, sent, Option.getD_some, ← before.deliveries, ← deliveries]
          rfl

/-! ## Signals -/

/-- A signal cancels calls one after the other. -/
theorem cancelAll_leads (s : Workshop) (given : WatchedCall → Prop) [DecidablePred given]
    (done rest : List WatchedCall) :
    Leads { s with calls := done ++ rest }
      { s with
        calls :=
          done ++ rest.map fun w => if given w then { w with call := w.call.cancel } else w } := by
  -- the calls in `done` have heard the signal
  induction rest generalizing done with
  | nil => exact .refl _
  | cons w rest ih =>
    have later := ih (done ++ [if given w then { w with call := w.call.cancel } else w])
    rw [List.append_assoc, List.append_assoc] at later
    refine Leads.trans ?_ later
    by_cases own : given w
    · have at_ : call? { s with calls := done ++ w :: rest } done.length = some w.call := by
        simp [call?]
      refine (cancel_leads at_).trans (.of_same rfl ?_ rfl)
      rw [calls_setCall]
      simp [own]
    · rw [if_neg own]
      exact .refl _

theorem give_leads (s : Workshop) (signal : String) : Leads s (s.give signal) :=
  (cancelAll_leads s (fun w => w.signal? = some signal) [] s.calls).trans (.of_same rfl rfl rfl)

/-! ## Work -/

theorem lookAt_leads (s : Workshop) (now : Nat) (key : JobKey) : Leads s (s.lookAt now key).2 :=
  getStatus_leads s now key

theorem takeNote_leads (s : Workshop) (now : Nat) (key : JobKey) :
    Leads s (s.takeNote now key).2 := by
  have read := getJob_leads s now key
  unfold takeNote
  split
  next job s' answered =>
    rw [answered] at read
    exact read.trans (.of_same rfl rfl rfl)
  next cause s' answered =>
    rw [answered] at read
    exact read

theorem changeFor_leads {p : JobKey → Procedure (Except Error Unit)} {now : Nat}
    (update : ∀ s key, Leads s (s.carryOut now (p key)).2) (s : Workshop) (own : JobKey)
    (job? : Option String) : Leads s (s.changeFor now own job? p).2 := by
  unfold changeFor
  split
  · exact update s own
  · split
    next id _ => exact update s ⟨own.account, id⟩
    · exact .refl s

theorem after_leads {answer : Except Error Unit} {started : List Errand}
    {rest : Workshop → Progress} (first : Leads s mid) (later : Leads mid (rest mid).shop) :
    Leads s (Progress.after answer mid started rest).shop := by
  cases answer with
  | ok _ => exact first.trans later
  | error cause => exact first

theorem progressAfterLook_leads {now : Nat} {key : JobKey} {started : List Errand}
    {rest : List Action} {next : Workshop → Progress} (later : ∀ s, Leads s (next s).shop)
    (s : Workshop) : Leads s (s.progressAfterLook now key started rest next).shop := by
  have looked := lookAt_leads s now key
  unfold progressAfterLook
  split
  next answer s' found =>
    rw [found] at looked
    exact after_leads looked (later s')
  next s' found =>
    rw [found] at looked
    exact looked

/-- Work leads somewhere by each of its actions. -/
theorem perform_leads (now : Nat) (own : JobKey) (actions : List Action) (started : List Errand)
    (s : Workshop) : Leads s (perform now own actions started s).shop := by
  -- nested work is only started here, so the actions that follow are all there is to go through
  induction actions generalizing started s with
  | nil => exact .refl s
  | cons action rest ih =>
    cases action with
    | sleep d =>
      rw [perform]
      split
      · exact ih started s
      · exact .refl s
    | gate signal =>
      rw [perform]
      split
      · exact ih started s
      · exact .refl s
    | never => exact .refl s
    | succeed => exact .refl s
    | fail message => exact .refl s
    | panic message => exact .refl s
    | task job? status task message =>
      exact after_leads
        (changeFor_leads (fun s key => updateTask_leads s now key status task message) s own job?)
        (ih started _)
    | value job? name bytes =>
      exact after_leads
        (changeFor_leads (fun s key => updateValue_leads s now key name bytes) s own job?)
        (ih started _)
    | note => exact after_leads (takeNote_leads s now own) (ih started _)
    | await name =>
      rw [perform]
      split
      · exact .refl s
      · exact progressAfterLook_leads (ih started) s
    | nested label account? description signal? wait work =>
      rw [perform]
      split
      · exact .refl s
      next account _ =>
        have executed := execute_leads s now ⟨label, account, none, description, signal?, work⟩
        split
        next cause errands s' answered =>
          rw [answered] at executed
          exact executed
        next i id errands s' answered =>
          rw [answered] at executed
          split
          · exact executed
          · exact executed.trans (ih _ s')

theorem resume_leads (s : Workshop) (now : Nat) (own : JobKey) (pause? : Option WorkPause)
    (rest : List Action) : Leads s (s.resume now own pause? rest).shop := by
  unfold resume
  split
  · exact progressAfterLook_leads (perform_leads now own rest []) s
  next i =>
    have received := receive_leads s i
    split
    next answer s' taken =>
      rw [taken] at received
      exact after_leads received (perform_leads now own rest [] s')
    next what s' _ taken =>
      rw [taken] at received
      exact received.trans (perform_leads now own rest [] s')
  · exact perform_leads now own rest [] s

theorem workTurn_leads (s : Workshop) (now i : Nat) (pause? : Option WorkPause)
    (rest : List Action) : Leads s (s.workTurn now i pause? rest).state := by
  unfold workTurn
  split
  · exact .refl s
  next call at_ =>
    have resumed := resume_leads s now call.assignment.key pause? rest
    simp only
    split
    · exact resumed
    next last ended =>
      refine resumed.trans ?_
      cases now_ : (s.resume now call.assignment.key pause? rest).shop.call? i with
      | some call' => exact endWork_leads now_ last
      | none =>
        refine .of_same rfl ?_ rfl
        rw [calls_setCall, List.set_eq_of_length_le]
        simpa [call?] using now_

/-! ## Deliveries -/

theorem Leads.send {message : Nat} {deliveries : Deliveries}
    (begun : s.deliveries.begin? message = some deliveries) :
    Leads s { s with deliveries } := by
  intro t before
  rw [before.deliveries] at begun
  refine ⟨{ t with deliveries }, .one (e := .send message) ?_, before.store, before.calls, rfl⟩
  rw [Traffic.apply, begun, Option.map_some]

theorem endDelivery_leads (s : Workshop) (message : Nat) (result : Delivery) :
    Leads s (s.endDelivery message result).state := by
  intro t before
  unfold endDelivery
  cases ended : s.deliveries.finish? message result with
  | none => exact ⟨t, .refl t, before⟩
  | some deliveries =>
    rw [before.deliveries] at ended
    refine ⟨{ t with deliveries }, .one (e := .deliver message result) ?_, before.store,
      before.calls, rfl⟩
    rw [Traffic.apply, ended, Option.map_some]

theorem goOnSending_leads (s : Workshop) (now message : Nat) (ready? : Option Nat) (limit : Nat) :
    Leads s (s.goOnSending now message ready? limit).state := by
  unfold goOnSending
  split
  · exact endDelivery_leads s message .sent
  · split
    · exact endDelivery_leads s message .timedOut
    · exact .refl s

theorem beginDelivery_leads (s : Workshop) (now message : Nat) :
    Leads s (s.beginDelivery now message).state := by
  unfold beginDelivery
  simp only
  split
  · exact endDelivery_leads s message .sent
  next cause _ => exact endDelivery_leads s message (.failed cause)
  · exact endDelivery_leads s message .disabled
  · exact endDelivery_leads s message .panicked
  · exact goOnSending_leads s now message _ _
  · exact goOnSending_leads s now message _ _

theorem deliveryTurn_leads (s : Workshop) (now message : Nat) (stage : DeliveryStage) :
    Leads s (s.deliveryTurn now message stage).state := by
  cases stage with
  | waiting =>
    rw [deliveryTurn]
    split
    next deliveries begun =>
      split
      · exact (Leads.send begun).trans (beginDelivery_leads _ now message)
      · exact .refl s
    · exact .refl s
  | sending ready? limit => exact goOnSending_leads s now message ready? limit

/-! ## Runs -/

/-- **A workshop does what traffic may do.**  With jobs in memory, every turn of a thread leads from
what some traffic comes to to what it comes to later, and so does every run of threads. -/
theorem keeps_leads : rules.Keeps Leads where
  refl := .refl
  trans := .trans
  turn now s thread := by
    cases thread with
    | work i pause? rest => exact workTurn_leads s now i pause? rest
    | finalizer i => exact finalizerTurn_leads s now i
    | delivery message stage => exact deliveryTurn_leads s now message stage

/-- What a workshop that started without jobs has come to, some traffic has come to. -/
theorem exists_traffic {settings : JobSettings} {sender : Sender} {faults : Faults}
    (leads : Leads (create settings .memory sender faults) s) :
    ∃ t, Reaches Traffic.apply (.create .empty settings.maxInflight) t ∧ Shows s t :=
  leads _ (create_shows settings sender faults)

end Workshop

/-! ## Clients -/

namespace Client

open Workshop (Leads)

theorem await_leads (c : Client) (wanted : Workshop → Bool) (deadline : Nat) :
    Leads c.shop (c.await wanted deadline).shop := by
  unfold await
  split
  next reached run happens => exact Workshop.keeps_leads.runUntil happens
  · exact .refl c.shop

theorem pass_leads (c : Client) (d : Duration) : Leads c.shop (c.pass d).shop := by
  have passed := Workshop.keeps_leads.pass d c.run
  rw [shop, shop, pass]
  exact passed

theorem give_leads (c : Client) (signal : String) : Leads c.shop (c.give signal).shop :=
  Workshop.give_leads c.shop signal

theorem operate_leads (c : Client) (o : Manager.Operation) :
    Leads c.shop (c.carryOut o.procedure).2.shop :=
  Workshop.operate_leads c.shop c.run.now o

theorem execute_leads (c : Client) (r : Workshop.Request) :
    Leads c.shop (c.execute r).2.shop := by
  have executed := Workshop.execute_leads c.shop c.run.now r
  unfold execute
  split
  next cause errands s answered =>
    rw [answered] at executed
    exact executed
  next i id errands s answered =>
    rw [answered] at executed
    exact executed

theorem receive_leads (c : Client) (label : String) (limit : Option Duration) :
    Leads c.shop (c.receive? label limit).2.shop := by
  unfold receive?
  split
  · exact .refl c.shop
  next i _ =>
    cases limit with
    | none => exact Workshop.receive_leads c.shop i
    | some d =>
      exact (await_leads c (·.hasOutcome i) (timerAt c.run.now d)).trans (Workshop.receive_leads _ i)

theorem drop_leads (c : Client) (label : String) : Leads c.shop (c.drop label).2.shop := by
  unfold drop
  split
  · exact .refl c.shop
  next i _ =>
    cases at_ : c.run.state.call? i with
    | none =>
      simp only [shop, change, at_]
      exact .refl c.run.state
    | some call =>
      simp only [shop, change, at_]
      exact Workshop.stopListening_leads at_

theorem lookAll_leads (c : Client) (key : JobKey) (waiters : List (Option (Except Error Unit))) :
    Leads c.shop (c.lookAll key waiters).2.shop := by
  induction waiters generalizing c with
  | nil => exact .refl c.shop
  | cons waiter rest ih =>
    cases waiter with
    | some answer => exact ih c
    | none =>
      have looked := Workshop.lookAt_leads c.shop c.run.now key
      exact looked.trans (ih (c.change fun _ => (c.shop.lookAt c.run.now key).2))

theorem waitFrom_leads {key : JobKey} {deadline fuel : Nat}
    {waiters : List (Option (Except Error Unit))} (c : Client) :
    Leads c.shop (waitFrom key deadline fuel waiters c).2.shop := by
  induction fuel generalizing waiters c with
  | zero => exact .refl c.shop
  | succ fuel ih =>
    have looked := lookAll_leads c key waiters
    simp only [waitFrom]
    split
    · exact looked
    · split
      · exact looked
      · split
        · exact (looked.trans (await_leads _ _ _)).trans (ih _)
        · exact looked.trans (await_leads _ _ _)

theorem waitFor_leads (c : Client) (key : JobKey) (count : Nat) (limit : Duration) :
    Leads c.shop (c.waitFor key count limit).2.shop :=
  waitFrom_leads c

end Client

end Schedule

end JobNode
