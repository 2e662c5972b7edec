import JobNode.Proofs.Manager.StatusDesk
import JobNode.Proofs.Queue.Settlement

/-!
# Job status through a queue is job status asked directly

What is recorded for a submission whose status report ends in time is what the manager would have
answered to the same question at the moment at which the report asked.

* `StatusDesk.Led`, `StatusDesk.led_of_run`: the server of a desk is a server like any other, and does
  what is noted of it.
* `StatusDesk.Leads`: what can happen next; a status report that has begun can be brought to its end.
* `StatusDesk.Kept.handed_over`: a status report that has ended has one outcome to hand over.
* `StatusDesk.status_as_asked`: what is recorded for submissions that ask for the status of a job.
-/

namespace JobNode.Manager.StatusDesk

open StatusTask (Inquiry Reports Midway)

variable {τ : Type} {h k : List Note} {w : Nat} {x : Submission} {outcome : Outcome} {store : Store}
  {s next : StatusDesk τ} {e : Event τ} {settings : QueueSettings} {events : List (Event τ)}

/-! ## The server -/

/-- The server has come where these steps of its own lead, and has done what was noted. -/
structure Led (settings : QueueSettings) (s : StatusDesk τ) (done : List (Server.Event (Duty τ)))
    (h : List Note) : Prop where
  run : (Server.create settings).run? done = some s.server
  deeds : ∀ n ∈ h, ∀ d, n.deed? = some d →
    d ∈ (Server.create settings : Server (Duty τ)).history done

/-- A step of the server by itself, and what is noted of it. -/
theorem Led.onward {done : List (Server.Event (Duty τ))} (before : Led settings s done h)
    {e : Server.Event (Duty τ)} (applied : s.server.apply e = some next.server)
    (noted : ∀ n ∈ k, ∀ d, n.deed? = some d → d ∈ s.server.deeds e) :
    Led settings next (done ++ [e]) (h ++ k) where
  run := by
    rw [Server.run?, Run.last?_append before.run, Run.last?, applied]
    rfl
  deeds n mem d deed := by
    rw [Server.history, Run.history_append before.run, Run.history, applied]
    simp only [Run.history, List.append_nil]
    rcases List.mem_append.1 mem with old | new
    · exact List.mem_append_left _ (before.deeds n old d deed)
    · exact List.mem_append_right _ (noted n new d deed)

/-- A step of another kind. -/
theorem Led.still {done : List (Server.Event (Duty τ))} (before : Led settings s done h)
    (same : next.server = s.server) (silent : ∀ n ∈ k, n.deed? = none) :
    Led settings next (done ++ []) (h ++ k) where
  run := by rw [List.append_nil, before.run, same]
  deeds n mem d deed := by
    rw [List.append_nil]
    rcases List.mem_append.1 mem with old | new
    · exact before.deeds n old d deed
    · exact nomatch (silent n new).symm.trans deed

theorem Led.step {done : List (Server.Event (Duty τ))} (before : Led settings s done h)
    (happens : s.apply e = some next) : Led settings next (done ++ s.steps e) (h ++ s.notes e) := by
  cases e with
  | server e =>
    obtain ⟨-, server, applied, rfl⟩ := goes_of_apply happens
    refine before.onward (by rw [applied, server_begun]) fun n mem d deed => ?_
    cases makes_of_mem mem with
    | @begins w now x limit counted start =>
      cases deed
      simp [Server.deeds, Pool.deeds, counted, start]
    | @settles w x outcome storing =>
      cases deed
      simp [Server.deeds, Pool.deeds, storing]
  | finish w =>
    obtain ⟨x, last, server, -, done, ended, rfl⟩ := finishes_of_apply happens
    have stepped : s.steps (.finish w) = [.work (.finish w last)] := by simp only [steps, done]
    rw [stepped]
    refine before.onward ended fun n mem d deed => ?_
    cases makes_of_mem mem
    cases deed
  | answer w reply now =>
    obtain ⟨x, body, rest, store, -, -, -, rfl⟩ := answers_of_apply happens
    refine before.still rfl fun n mem => ?_
    cases makes_of_mem mem
    rfl
  | change store =>
    cases happens
    refine before.still rfl fun n mem => ?_
    cases makes_of_mem mem
    rfl

/-- The steps of a run lead here, and those among them that are steps of the server lead the server
here. -/
structure Follows (settings : QueueSettings) (store : Store) (s : StatusDesk τ)
    (events : List (Event τ)) (h : List Note) : Prop where
  run : (create settings store).run? events = some s
  led : Led settings s ((create settings store).serverEvents events) h

theorem Follows.step (before : Follows settings store s events h)
    (happens : s.apply e = some next) :
    Follows settings store next (events ++ [e]) (h ++ s.notes e) where
  run := by
    rw [run?, Run.last?_append before.run, Run.last?, happens]
    rfl
  led := by
    have more : (create settings store).serverEvents (events ++ [e]) =
        (create settings store).serverEvents events ++ s.steps e := by
      rw [serverEvents, serverEvents, Run.history_append before.run, Run.history, happens]
      simp only [Run.history, List.append_nil]
    rw [more]
    exact before.led.step happens

/-- The server of the desk is a server like any other, which does what is noted. -/
theorem led_of_run (run : (create settings store : StatusDesk τ).run? events = some s) :
    Led settings s ((create settings store).serverEvents events)
      ((create settings store).history events) := by
  have start : Follows settings store (create settings store : StatusDesk τ) [] [] :=
    ⟨rfl, rfl, fun _ mem => nomatch mem⟩
  exact (Run.steps_induction Follows.step start run).led

/-- Status reports are begun only for submissions that the server has accepted. -/
theorem Led.accepted {done : List (Server.Event (Duty τ))} (led : Led settings s done h)
    (began : .began w x ∈ h) :
    x ∈ ((Server.create settings : Server (Duty τ)).history done).accepted := by
  have account := Server.accounted_of_run led.run
  have begun : (.worker w, x) ∈ ((Server.create settings : Server (Duty τ)).history done).begun :=
    List.mem_filterMap.2 ⟨_, led.deeds _ began _ rfl, rfl⟩
  rw [account.queue]
  exact List.mem_append_left _ (List.mem_map.2 ⟨_, account.begun_subperm.subset begun, rfl⟩)

theorem Led.settled {done : List (Server.Event (Duty τ))} (led : Led settings s done h)
    (settled : .settled w x outcome ∈ h) :
    (.worker w, x, outcome) ∈
      ((Server.create settings : Server (Duty τ)).history done).settlements :=
  List.mem_filterMap.2 ⟨_, led.deeds _ settled _ rfl, rfl⟩

/-! ## What can happen next -/

/-- These steps can happen, and this is noted of them. -/
def Leads (s : StatusDesk τ) (events : List (Event τ)) (h : List Note) : Prop :=
  ∃ last, s.run? events = some last ∧ s.history events = h

theorem Leads.nil (s : StatusDesk τ) : Leads s [] [] := ⟨s, rfl, rfl⟩

theorem Leads.head {more : List (Event τ)} (happens : s.apply e = some next)
    (noted : s.notes e = h) (later : Leads next more k) : Leads s (e :: more) (h ++ k) := by
  obtain ⟨last, run, history⟩ := later
  refine ⟨last, ?_, ?_⟩
  · rw [run?, Run.last?, happens]
    exact run
  · rw [StatusDesk.history, Run.history, happens, noted]
    exact congrArg _ history

/-- A worker that has counted a submission may begin its status report while it is valid. -/
theorem begins_report {now : Instant} (counted : s.server.pool.workers[w]? = some (.counted x))
    (known : s.server.pool.registry.get? x.task = some .status)
    (valid : 0 < x.validUntil.since now) :
    Leads s [.server (.work (.begin w now))] [.began w x] := by
  obtain ⟨limit, -, start⟩ := Submission.exists_start known valid
  have worked : s.server.pool.apply (.begin w now) =
      some (s.server.pool.setWorker w (.running x .status limit)) := by
    simp only [Pool.apply, counted, start]
  have noted : s.notes (.server (.work (.begin w now))) = [.began w x] := by
    simp only [notes, counted, start]
  exact .head (goes_work rfl rfl worked) noted (.nil _)

theorem leads_storing (there : s.server.pool.workers[w]? = some (.storing x outcome)) :
    Leads s [.server (.work (.store w))] [.settled w x outcome] := by
  have worked : s.server.pool.apply (.store w) =
      some { s.server.pool.setWorker w .draining with
        backend := s.server.pool.backend.set x.id outcome } := by
    simp only [Pool.apply, there]
  have noted : s.notes (.server (.work (.store w))) = [.settled w x outcome] := by
    simp only [notes, there]
  exact .head (goes_work rfl rfl worked) noted (.nil _)

theorem leads_finished (there : s.server.pool.workers[w]? = some (.finished x outcome)) :
    Leads s [.server (.work (.uncount w)), .server (.work (.store w))]
      [.settled w x outcome] := by
  have worked : s.server.pool.apply (.uncount w) =
      some { s.server.pool.setWorker w (.storing x outcome) with
        active := s.server.pool.active - 1 } := by
    simp only [Pool.apply, there]
  have inRange := (List.getElem?_eq_some_iff.1 there).1
  exact .head (goes_work rfl rfl worked) rfl (leads_storing (List.getElem?_set_self inRange))

/-- A status report that is at its end can end, and what it comes to be handed over. -/
theorem leads_done {limit : Duration} {last : BodyEnd}
    (running : s.server.pool.workers[w]? = some (.running x .status limit))
    (done : s.bodies.find? w = some (.done last)) :
    Leads s [.finish w, .server (.work (.uncount w)), .server (.work (.store w))]
      [.ended w x, .settled w x (x.outcome last)] := by
  have reporting := reporting?_eq_some_iff.2 ⟨limit, running⟩
  have worked : s.server.pool.apply (.finish w last) =
      some (s.server.pool.setWorker w (.finished x (x.outcome last))) := by
    simp only [Pool.apply, running]
  have happens : s.apply (.finish w) = some { s with server := { s.server with
      pool := s.server.pool.setWorker w (.finished x (x.outcome last)) } } := by
    have own : (Pool.Event.finish w last).isWorkerStep = true := rfl
    simp only [apply, reporting, done, Server.apply, if_pos own, worked, Option.map_some]
  have noted : s.notes (.finish w) = [.ended w x] := by simp [notes, reporting]
  have inRange := (List.getElem?_eq_some_iff.1 running).1
  exact .head happens noted (leads_finished (List.getElem?_set_self inRange))

/-- A status report that is at its question can be answered by the store as it is. -/
theorem leads_asking {limit : Duration} {k : JobKey} {after : Except Error Job → BodyEnd}
    (running : s.server.pool.workers[w]? = some (.running x .status limit))
    (asking : s.bodies.find? w = some (.get k fun answer => .done (after answer))) :
    Leads s
      [.answer w .served .epoch, .finish w, .server (.work (.uncount w)), .server (.work (.store w))]
      [.asked w ⟨k, s.store, none⟩, .ended w x,
        .settled w x (x.outcome (after (s.store.get k)))] := by
  have reporting := reporting?_eq_some_iff.2 ⟨limit, running⟩
  have happens : s.apply (.answer w .served .epoch) = some { s with
      store := s.store, bodies := s.bodies.put w (.done (after (s.store.get k))) } := by
    simp only [apply, reporting, asking, Procedure.ask?, Option.map_some]
  have noted : s.notes (.answer w .served .epoch) = [.asked w ⟨k, s.store, none⟩] := by
    simp [notes, inquiry?, asking]
  exact .head happens noted (leads_done running (s.bodies.find?_put_self w _))

/-- However far a status report has come, it can go on to its end by at most four steps of its own,
and what it comes to be handed over. -/
theorem Kept.leads_running (kept : Kept store s h) {limit : Duration}
    (running : s.server.pool.workers[w]? = some (.running x .status limit)) :
    ∃ (more : List (Event τ)) (qs : List Inquiry) (outcome : Outcome), more.length ≤ 4 ∧
      Leads s more (qs.map (.asked w) ++ [.ended w x, .settled w x outcome]) := by
  have reporting := reporting?_eq_some_iff.2 ⟨limit, running⟩
  obtain ⟨-, older, qs, rest, there, -, midway⟩ := kept.midway reporting
  rcases midway with ⟨-, fresh⟩ | ⟨q, -, -, done⟩
  · rcases StatusTask.refuses_or_names x.params with ⟨text, refuses⟩ | ⟨k, names⟩
    · rw [fresh, StatusTask.run_of_refuses refuses] at there
      refine ⟨_, [], _, ?_, leads_done running there⟩
      exact Nat.le_succ 3
    · rw [fresh, StatusTask.run_of_names names] at there
      refine ⟨_, [⟨k, s.store, none⟩], _, ?_, leads_asking running there⟩
      exact le_rfl
  · rw [done] at there
    refine ⟨_, [], _, ?_, leads_done running there⟩
    exact Nat.le_succ 3

/-- A status report that has ended has an outcome.  The next thing that is noted of the worker is that
it is handed over, and until then this is at most two steps of the worker away. -/
theorem Kept.handed_over {past later : List Note}
    (kept : Kept store s (past ++ .ended w x :: later)) :
    ∃ outcome, Told w x outcome (own w past) ∧
      (∀ n rest, own w later = n :: rest → n = .settled w x outcome) ∧
      (own w later = [] → ∃ more : List (Event τ), more.length ≤ 2 ∧
        Leads s more [.settled w x outcome]) := by
  obtain ⟨-, outcome, told⟩ : Fits store past (.ended w x) := kept.fits past _ later rfl
  have own_eq (l : List Note) :
      own w (past ++ .ended w x :: l) = own w past ++ .ended w x :: own w l := by
    rw [own_append, own_cons_self rfl]
  refine ⟨outcome, told, fun n rest first => ?_, fun none => ?_⟩
  · obtain ⟨about, before, after, rfl, silent⟩ := exists_first first
    have fits : Fits store (past ++ .ended w x :: before) n :=
      kept.fits _ n after (by rw [List.append_assoc, List.cons_append])
    obtain ⟨outcome', rfl, told'⟩ := fits.of_ended about (by rw [own_eq, silent])
    rw [told'.unique told]
  · have accords := kept.accords w
    rw [own_eq, none] at accords
    obtain ⟨outcome', told', there | there⟩ := accords.ended
    · cases told'.unique told
      exact ⟨_, le_rfl, leads_finished there⟩
    · cases told'.unique told
      refine ⟨_, ?_, leads_storing there⟩
      exact Nat.le_succ 1

/-! ## The outcome of a status report -/

/-- **Job status through a queue is job status asked directly.**  Beside a server whose tasks include
the status report, other tasks and other users of the store may do what they like.  A submission whose
status report is begun is one that the server has accepted.  A report that ends in time has been told
an outcome: the text of the first step that its parameters fail, or else, from one question to the
store as it was at that moment, the answer that the manager gives to whoever asks it directly.  This
outcome is the next thing the worker hands over, and the server records it for that submission.  A
submission that was taken in time can be begun, a report that was begun can go on to its end, and one
that has ended is handed over, by a few steps of the worker.  No report changes the store; the outcome
depends on two parameters and on the record of one job, which saving others leaves alone.  The JSON of a
report is read back as the report it shows, which is that report itself just if its time has not the
fraction of a leap second within a minute. -/
theorem status_as_asked :
    (∀ (settings : QueueSettings) (store : Store) (events : List (Event τ)) (s : StatusDesk τ),
      (create settings store).run? events = some s →
        let h : List Note := (create settings store).history events
        let steps := (create settings store).serverEvents events
        let deeds := (Server.create settings : Server (Duty τ)).history steps
        (Server.create settings).run? steps = some s.server ∧
        (∀ w x, .began w x ∈ h → x ∈ deeds.accepted) ∧
        (∀ w x outcome, .settled w x outcome ∈ h → (.worker w, x, outcome) ∈ deeds.settlements) ∧
        s.store = storeAfter store h ∧
        (∀ past w q later, h = past ++ .asked w q :: later → q.store = storeAfter store past) ∧
        (∀ past w x later, h = past ++ .ended w x :: later →
          ∃ outcome, Told w x outcome (own w past) ∧
            (∀ n rest, own w later = n :: rest → n = .settled w x outcome) ∧
            (own w later = [] → ∃ more : List (Event τ), more.length ≤ 2 ∧
              Leads s more [.settled w x outcome])) ∧
        (∀ w x now, s.server.pool.workers[w]? = some (.counted x) →
          s.server.pool.registry.get? x.task = some .status → 0 < x.validUntil.since now →
            Leads s [.server (.work (.begin w now))] [.began w x]) ∧
        ∀ w x limit, s.server.pool.workers[w]? = some (.running x .status limit) →
          ∃ (more : List (Event τ)) (qs : List Inquiry) (outcome : Outcome), more.length ≤ 4 ∧
            Leads s more (qs.map (.asked w) ++ [.ended w x, .settled w x outcome])) ∧
    (∀ params params' qs qs' last last', Reports params qs last → Reports params' qs' last' →
      params.value? StatusTask.accountParam = params'.value? StatusTask.accountParam →
      params.value? StatusTask.jobParam = params'.value? StatusTask.jobParam →
      List.Forall₂ Inquiry.Alike qs qs' → last = last') ∧
    (∀ (s s' : Store) (job : Job) (now : Instant) (key : JobKey), s.save job now = .ok s' →
      key ≠ job.key → s.Agree key s') ∧
    ∀ report : StatusReport,
      (∀ v, Json.Reordered report.toJson v →
        Json.decodeValue StatusReport.decode v = .ok report.written ∧
        Json.decodeText StatusReport.decode v.render = .ok report.written) ∧
      (report.written = report ↔ report.lastUpdated.Regular) := by
  refine ⟨fun settings store events s run => ?_, ?_, ?_, ?_⟩
  · intro h steps deeds
    have kept : Kept store s h := kept_of_run run
    have led : Led settings s steps h := led_of_run run
    refine ⟨led.run, fun w x => led.accepted, fun w x outcome => led.settled, kept.current, ?_, ?_,
      fun w x now counted known valid => begins_report counted known valid,
      fun w x limit running => kept.leads_running running⟩
    · intro past w q later split
      have fits : Fits store past (.asked w q) := kept.fits past _ later split
      exact fits.2
    · intro past w x later split
      have kept : Kept store s (past ++ .ended w x :: later) := split ▸ kept
      exact kept.handed_over
  · intro params params' qs qs' last last' reports reports' account job same
    exact (reports.alike account job same).unique reports'
  · intro s s' job now key saved other
    exact Store.agree_of_save saved other
  · intro report
    refine ⟨fun v same => ?_, StatusReport.written_eq_self_iff⟩
    exact ⟨StatusReport.yields_written.decode same, StatusReport.yields_written.decodeText same⟩

/-- A job, another job of the same account, and a store that holds the first. -/
def sampleFiled : Job := .create ⟨.ofNat 1⟩ .zero "anchor" .epoch

def sampleOther : Job := .create ⟨.ofNat 2⟩ .zero "anchor" .epoch

def sampleStore : Store := .memory (Memory.empty.save sampleFiled)

/-- The parameters that name the first job. -/
def sampleBag : Params :=
  .ofList
    [(StatusTask.accountParam, .string sampleFiled.account.toText),
      (StatusTask.jobParam, .string sampleFiled.id.toText)]

/-- The submission that asks for the status of the job. -/
def sampleAsking : Submission :=
  .create ⟨.ofNat 7⟩ StatusTask.name sampleBag ({ workers := 1 } : QueueSettings).taskValidity .epoch

/-- The job is saved after its status report has begun and before it asks. -/
def sampleReporting : List (Event Unit) :=
  [.server (.register StatusTask.name StatusTask.name .status), .server .start,
    .server (.enqueue ⟨.ofNat 7⟩ StatusTask.name sampleBag .epoch), .server (.work (.wake 0)),
    .server (.work (.look 0)), .server (.work (.take 0)), .server (.work (.count 0)),
    .server (.work (.begin 0 .epoch)), .change sampleStore, .answer 0 .served .epoch, .finish 0,
    .server (.work (.uncount 0)), .server (.work (.store 0))]

/-- What is noted of it, before and after the end of the report. -/
def sampleBefore : List Note :=
  [.began 0 sampleAsking, .changed sampleStore, .asked 0 ⟨sampleFiled.key, sampleStore, none⟩]

def sampleAfter : List Note := [.settled 0 sampleAsking (.ok sampleFiled.statusReport.toJson)]

theorem sampleReporting_told :
    (∃ s, (create { workers := 1 } (.memory .empty)).run? sampleReporting = some s ∧
      s.store = sampleStore ∧
      (create { workers := 1 } (.memory .empty)).history sampleReporting =
        sampleBefore ++ .ended 0 sampleAsking :: sampleAfter ∧
      Told 0 sampleAsking (.ok sampleFiled.statusReport.toJson) (own 0 sampleBefore)) ∧
    (∃ store, sampleStore.save sampleOther .epoch = .ok store ∧
      ∀ last,
        Reports (sampleBag.insert "verbose" (.bool true)) [⟨sampleFiled.key, store, none⟩] last →
          .returned sampleFiled.statusReport.toJson = last) ∧
    Json.decodeText StatusReport.decode sampleFiled.statusReport.toJson.render =
      .ok sampleFiled.statusReport := by
  obtain ⟨runs, depends, saves, reads⟩ := @status_as_asked Unit
  have run : (create { workers := 1 } (.memory .empty)).run? sampleReporting = some _ := rfl
  have noted : (create { workers := 1 } (.memory .empty)).history sampleReporting =
      sampleBefore ++ .ended 0 sampleAsking :: sampleAfter := rfl
  have saved : sampleStore.save sampleOther .epoch = .ok _ := rfl
  have names : StatusTask.Names sampleBag sampleFiled.key := StatusTask.names_iff.1 rfl
  obtain ⟨-, -, -, current, -, ended, -⟩ := runs _ _ _ _ run
  obtain ⟨outcome, told, next, -⟩ := ended _ _ _ _ noted
  have handed : Note.settled 0 sampleAsking (.ok sampleFiled.statusReport.toJson) =
      .settled 0 sampleAsking outcome := next _ _ rfl
  cases handed
  have back := ((reads sampleFiled.statusReport).1 _ (.refl _)).2
  refine ⟨⟨_, run, current, noted, told⟩, ⟨_, saved, fun last reports => ?_⟩, back⟩
  have agree := saves _ _ _ _ sampleFiled.key saved (by decide)
  exact depends _ _ [⟨sampleFiled.key, sampleStore, none⟩] _ _ _ (.found names rfl) reports rfl rfl
    (.cons ⟨rfl, rfl, agree⟩ .nil)

/-- The same run where the job was created within a minute, at a time with the fraction of a leap
second. -/
def sampleLeaping : List (Event Unit) :=
  sampleReporting.set 8 (.change (.memory (Memory.empty.save .sampleLeap)))

/-- Another task of the same name is registered after the status report. -/
def sampleReplaced : List (Event Unit) :=
  [.server (.register StatusTask.name StatusTask.name .status),
    .server (.register StatusTask.name StatusTask.name (.other ())), .server .start,
    .server (.enqueue ⟨.ofNat 7⟩ StatusTask.name sampleBag .epoch), .server (.work (.wake 0)),
    .server (.work (.look 0)), .server (.work (.take 0)), .server (.work (.count 0)),
    .server (.work (.begin 0 .epoch)), .server (.work (.finish 0 (.returned (.string "pong")))),
    .server (.work (.uncount 0)), .server (.work (.store 0))]

/-- The JSON that is handed over for such a job is read back as another report; and where another
task has taken the name, a submission is settled with what that task returns. -/
theorem sampleReplaced_not_status :
    (Note.settled 0 sampleAsking (.ok Job.sampleLeap.statusReport.toJson) ∈
        (create { workers := 1 } (.memory .empty)).history sampleLeaping ∧
      ∃ back, Json.decodeText StatusReport.decode Job.sampleLeap.statusReport.toJson.render =
        .ok back ∧ back ≠ Job.sampleLeap.statusReport) ∧
    (∃ s, (create { workers := 1 } sampleStore).run? sampleReplaced = some s ∧
      s.server.pool.backend.outcome? sampleAsking.id = some (.ok (.string "pong")) ∧
      sampleStore.get sampleFiled.key = .ok sampleFiled) := by
  have run : (create { workers := 1 } sampleStore).run? sampleReplaced = some _ := rfl
  refine ⟨⟨?_, Job.sampleLeap.statusReport.written, ?_, by decide⟩, _, run, rfl, rfl⟩
  · have noted : (create { workers := 1 } (.memory .empty)).history sampleLeaping =
        [.began 0 sampleAsking, .changed (.memory (Memory.empty.save .sampleLeap)),
          .asked 0 ⟨sampleFiled.key, .memory (Memory.empty.save .sampleLeap), none⟩,
          .ended 0 sampleAsking,
          .settled 0 sampleAsking (.ok Job.sampleLeap.statusReport.toJson)] := rfl
    simp [noted]
  · exact StatusReport.yields_written.decodeText (.refl _)

end JobNode.Manager.StatusDesk
