import JobNode.Manager.StatusTask
import JobNode.Proofs.Store.Agreement

/-!
# What the task that reports job status comes to

The task reads two of its parameters, asks the store for one job, and ends with the report of that job
or with the text of the first step that fails.  Nothing else in the bag and no other record of the
store has any effect on it.

* `StatusTask.Refuses`, `StatusTask.Names`: what the parameters are good for.
* `StatusTask.Inquiry`: a question to a store at some moment, and what the manager answers to it.
* `StatusTask.Reports`: how the task ends, by what it was told.
* `StatusTask.Reports.alike`: nothing else has any effect on how the task ends.
-/

namespace JobNode.Manager.StatusTask

open Json

variable {params params' : Params} {name text : String} {k : JobKey}

/-! ## Parameters -/

/-- Why a parameter is no text. -/
inductive NoText (params : Params) (name : String) : String → Prop
  | missing : params.value? name = none →
    NoText params name ("Validation error: " ++ ("missing parameter '" ++ name ++ "'"))
  | mistyped {v : Json} : params.value? name = some v → (∀ s, v ≠ .string s) →
    NoText params name ("Validation error: " ++ ("parameter '" ++ name ++ "' is not a string"))

/-- The text of the first step that fails; the account comes before the job. -/
inductive Refuses (params : Params) : String → Prop
  | account {text : String} : NoText params accountParam text → Refuses params text
  | accountText {s : String} {e : AccountId.ParseError} :
    params.value? accountParam = some (.string s) → AccountId.parse s = .error e →
    Refuses params ("Validation error: " ++ e.message)
  | job {s text : String} {account : AccountId} :
    params.value? accountParam = some (.string s) → AccountId.parse s = .ok account →
    NoText params jobParam text → Refuses params text
  | jobText {s t : String} {account : AccountId} {e : JobId.ParseError} :
    params.value? accountParam = some (.string s) → AccountId.parse s = .ok account →
    params.value? jobParam = some (.string t) → JobId.parse t = .error e →
    Refuses params ("Validation error: " ++ e.message)

/-- The parameters name a job. -/
def Names (params : Params) (k : JobKey) : Prop :=
  ∃ s t, params.value? accountParam = some (.string s) ∧ AccountId.parse s = .ok k.account ∧
    params.value? jobParam = some (.string t) ∧ JobId.parse t = .ok k.id

theorem text_of_string {s : String} (found : params.value? name = some (.string s)) :
    params.text name = .ok s := by
  rw [Params.text, Params.require, found]

theorem NoText.text_eq (none : NoText params name text) :
    ∃ e, params.text name = .error e ∧ e.message = text := by
  cases none with
  | missing missing => exact ⟨_, by rw [Params.text, Params.require, missing], rfl⟩
  | @mistyped v found other =>
    refine ⟨.validation ("parameter '" ++ name ++ "' is not a string"), ?_, rfl⟩
    cases v with
    | string s => exact absurd rfl (other s)
    | _ => rw [Params.text, Params.require, found]

theorem text_cases (params : Params) (name : String) :
    (∃ text, NoText params name text) ∨ ∃ s, params.value? name = some (.string s) := by
  cases found : params.value? name with
  | none => exact .inl ⟨_, .missing found⟩
  | some v =>
    cases v with
    | string s => exact .inr ⟨s, rfl⟩
    | _ => exact .inl ⟨_, .mistyped found fun _ => nofun⟩

theorem Refuses.key_eq (refuses : Refuses params text) : key params = .error text := by
  cases refuses with
  | account none =>
    obtain ⟨e, missed, rfl⟩ := none.text_eq
    simp only [key, missed]
  | accountText found unread =>
    simp only [key, text_of_string found, AccountId.read, unread, Except.mapError]
    rfl
  | job found read none =>
    obtain ⟨e, missed, rfl⟩ := none.text_eq
    simp only [key, text_of_string found, AccountId.read, read, Except.mapError, missed]
  | jobText found read found' unread =>
    simp only [key, text_of_string found, AccountId.read, read, Except.mapError,
      text_of_string found', JobId.read, unread]
    rfl

theorem Names.key_eq (names : Names params k) : key params = .ok k := by
  obtain ⟨s, t, found, read, found', read'⟩ := names
  simp only [key, text_of_string found, AccountId.read, read, Except.mapError,
    text_of_string found', JobId.read, read']

/-- Either the parameters name a job or the first of the steps that fail is refused. -/
theorem refuses_or_names (params : Params) : (∃ text, Refuses params text) ∨ ∃ k, Names params k := by
  rcases text_cases params accountParam with ⟨text, none⟩ | ⟨s, found⟩
  · exact .inl ⟨text, .account none⟩
  · cases read : AccountId.parse s with
    | error e => exact .inl ⟨_, .accountText found read⟩
    | ok account =>
      rcases text_cases params jobParam with ⟨text, none⟩ | ⟨t, found'⟩
      · exact .inl ⟨text, .job found read none⟩
      · cases read' : JobId.parse t with
        | error e => exact .inl ⟨_, .jobText found read found' read'⟩
        | ok id => exact .inr ⟨⟨account, id⟩, s, t, found, read, found', read'⟩

theorem refuses_iff : key params = .error text ↔ Refuses params text := by
  refine ⟨fun refused => ?_, Refuses.key_eq⟩
  rcases refuses_or_names params with ⟨text', refuses⟩ | ⟨k, names⟩
  · cases refused.symm.trans refuses.key_eq
    exact refuses
  · cases refused.symm.trans names.key_eq

theorem names_iff : key params = .ok k ↔ Names params k := by
  refine ⟨fun named => ?_, Names.key_eq⟩
  rcases refuses_or_names params with ⟨text', refuses⟩ | ⟨k', names⟩
  · cases named.symm.trans refuses.key_eq
  · cases named.symm.trans names.key_eq
    exact names

/-- Only the two parameters count. -/
theorem key_congr (account : params.value? accountParam = params'.value? accountParam)
    (job : params.value? jobParam = params'.value? jobParam) : key params = key params' := by
  have same {name : String} (value : params.value? name = params'.value? name) :
      params.text name = params'.text name := by
    rw [Params.text, Params.text, Params.require, Params.require, value]
  rw [key, key, same account, same job]

/-! ## Questions -/

/-- A question for a job to a store at some moment, which may fail to answer. -/
structure Inquiry where
  key : JobKey
  store : Store
  fault? : Option Error

namespace Inquiry

/-- The answer of the store. -/
def answer (q : Inquiry) : Except Error Job :=
  match q.fault? with
  | some cause => .error cause
  | none => q.store.get q.key

/-- The surroundings of somebody who asks at that moment. -/
def surroundings (q : Inquiry) : Procedure.Surroundings Store where
  get s key :=
    match q.fault? with
    | some cause => (.error cause, s)
    | none => (s.get key, s)
  save s job :=
    match q.fault?, s.save job .epoch with
    | some cause, _ => (.error cause, s)
    | none, .ok s => (.ok (), s)
    | none, .error cause => (.error cause, s)
  now s := (.epoch, s)
  newId s := (default, s)

/-- What the manager answers to somebody who asks for the status of the job at that moment. -/
def direct (q : Inquiry) : Except Error StatusReport :=
  ((getStatus q.key).run q.surroundings q.store).1

variable {q q' : Inquiry}

theorem run_getStatus (q : Inquiry) :
    (getStatus q.key).run q.surroundings q.store = (q.answer.map Job.statusReport, q.store) := by
  obtain ⟨key, store, fault?⟩ := q
  cases fault? <;> rfl

theorem direct_eq (q : Inquiry) : q.direct = q.answer.map Job.statusReport :=
  congrArg Prod.fst q.run_getStatus

/-- Two questions for one job, to stores that are the same as far as it is concerned. -/
structure Alike (q q' : Inquiry) : Prop where
  key : q.key = q'.key
  fault : q.fault? = q'.fault?
  agree : q.store.Agree q.key q'.store

/-- The answer is about one record of the store. -/
theorem Alike.direct_eq (alike : Alike q q') : q.direct = q'.direct := by
  have found : q.store.get q.key = q'.store.get q'.key := by
    rw [Store.get_of_agree alike.agree, alike.key]
  rw [q.direct_eq, q'.direct_eq, answer, answer, alike.fault, found]

end Inquiry

/-! ## Reports -/

/-- How the task ends, by the questions it has asked. -/
inductive Reports (params : Params) : List Inquiry → BodyEnd → Prop
  | refused {text : String} : Refuses params text → Reports params [] (.failed text)
  | found {q : Inquiry} {report : StatusReport} : Names params q.key → q.direct = .ok report →
    Reports params [q] (.returned report.toJson)
  | failed {q : Inquiry} {cause : Error} : Names params q.key → q.direct = .error cause →
    Reports params [q] (.failed cause.message)

theorem reports_of_direct {q : Inquiry} (names : Names params q.key) :
    Reports params [q] (bodyEnd q.direct) := by
  cases said : q.direct with
  | ok report => exact .found names said
  | error cause => exact .failed names said

variable {qs qs' : List Inquiry} {last last' : BodyEnd}

theorem Reports.unique (reports : Reports params qs last) (reports' : Reports params qs last') :
    last = last' := by
  cases reports with
  | refused refuses =>
    cases reports' with
    | refused refuses' =>
      cases refuses.key_eq.symm.trans refuses'.key_eq
      rfl
  | found names said =>
    cases reports' with
    | found names' said' =>
      cases said.symm.trans said'
      rfl
    | failed names' said' => cases said.symm.trans said'
  | failed names said =>
    cases reports' with
    | found names' said' => cases said.symm.trans said'
    | failed names' said' =>
      cases said.symm.trans said'
      rfl

/-- Only the two parameters and the record of the job that they name count for the report. -/
theorem Reports.alike (reports : Reports params qs last)
    (account : params.value? accountParam = params'.value? accountParam)
    (job : params.value? jobParam = params'.value? jobParam)
    (same : List.Forall₂ Inquiry.Alike qs qs') : Reports params' qs' last := by
  have key_eq := key_congr account job
  have named {k k' : JobKey} (names : Names params k) (eq : k = k') : Names params' k' :=
    names_iff.1 (key_eq.symm.trans (eq ▸ names.key_eq))
  cases reports with
  | refused refuses =>
    cases same
    exact .refused (refuses_iff.1 (key_eq.symm.trans refuses.key_eq))
  | found names said =>
    rcases same with _ | ⟨alike, ⟨⟩⟩
    exact .found (named names alike.key) (alike.direct_eq ▸ said)
  | failed names said =>
    rcases same with _ | ⟨alike, ⟨⟩⟩
    exact .failed (named names alike.key) (alike.direct_eq ▸ said)

/-- How far the task has come, by the questions it has asked. -/
def Midway (params : Params) (qs : List Inquiry) (rest : Procedure BodyEnd) : Prop :=
  (qs = [] ∧ rest = run params) ∨
    ∃ q, qs = [q] ∧ Names params q.key ∧ rest = .done (bodyEnd q.direct)

theorem run_of_refuses (refuses : Refuses params text) : run params = .done (.failed text) := by
  simp only [run, refuses.key_eq]

theorem run_of_names (names : Names params k) :
    run params = .get k fun answer => .done (bodyEnd (answer.map Job.statusReport)) := by
  simp only [run, names.key_eq]
  rfl

variable {rest left : Procedure BodyEnd} {s s' : Store} {now : Instant} {reply : Procedure.Reply}

/-- A task that has ended has ended with what it was told. -/
theorem Midway.reports (midway : Midway params qs (.done last)) : Reports params qs last := by
  rcases midway with ⟨rfl, fresh⟩ | ⟨q, rfl, names, ended⟩
  · rcases refuses_or_names params with ⟨text, refuses⟩ | ⟨k, names⟩
    · cases fresh.trans (run_of_refuses refuses)
      exact .refused refuses
    · cases fresh.trans (run_of_names names)
  · cases ended
    exact reports_of_direct names

/-- The task asks one question, for the job that its parameters name, and saves nothing. -/
theorem Midway.ask (midway : Midway params qs rest)
    (asked : rest.ask? s now reply = some (left, s')) :
    s' = s ∧ qs = [] ∧ ∃ q : Inquiry, q.store = s ∧ (∃ next, rest = .get q.key next) ∧
      (reply = .served ∧ q.fault? = none ∨ ∃ cause, reply = .failed cause ∧ q.fault? = some cause) ∧
      Midway params [q] left := by
  rcases midway with ⟨rfl, rfl⟩ | ⟨q, rfl, names, rfl⟩
  · rcases refuses_or_names params with ⟨text, refuses⟩ | ⟨k, names⟩
    · rw [run_of_refuses refuses] at asked
      cases asked
    · rw [run_of_names names] at asked
      have told (q : Inquiry) (same : q.key = k) (answer : Except Error Job)
          (gave : q.answer = answer) :
          Midway params [q] (.done (bodyEnd (answer.map Job.statusReport))) :=
        .inr ⟨q, rfl, same ▸ names, by rw [q.direct_eq, gave]⟩
      cases reply with
      | served =>
        cases asked
        exact ⟨rfl, rfl, ⟨k, s, none⟩, rfl, ⟨_, run_of_names names⟩, .inl ⟨rfl, rfl⟩,
          told _ rfl _ rfl⟩
      | failed cause =>
        cases asked
        exact ⟨rfl, rfl, ⟨k, s, some cause⟩, rfl, ⟨_, run_of_names names⟩, .inr ⟨cause, rfl, rfl⟩,
          told _ rfl _ rfl⟩
      | time => cases asked
      | identifier => cases asked
  · cases asked

end JobNode.Manager.StatusTask
