import JobNode.Proofs.Manager.Exchanges

/-!
# What the parties ask for

An execution asks for jobs under some keys only: the one that it was given, and those that it draws.
An operation asks for the one that it was given.  Their steps look at no other record and change no
other record, so they go the same way on any memory that has the same jobs under those keys.

* `Procedure.Within`: a procedure asks for named jobs only, whatever the answers.
* `Local`: a step looks at named records only and changes no others.
* `Procedure.Within.isLocal`, `Manager.Execution.isLocal`: the steps of procedures and of executions
  are local.
* `Alone.step`: a party that takes local steps goes on as it would alone.
-/

namespace JobNode

/-- Two memories hold the same jobs under the named keys. -/
def Memory.Agree (named : JobKey → Prop) (m a : Memory) : Prop :=
  ∀ key, named key → m.get? key = a.get? key

theorem Memory.Agree.symm {named : JobKey → Prop} {m a : Memory} (agree : m.Agree named a) :
    a.Agree named m := fun key own => (agree key own).symm

theorem Memory.Agree.save {named : JobKey → Prop} {m a : Memory} (agree : m.Agree named a)
    (job : Job) : (m.save job).Agree named (a.save job) := by
  intro key own
  rw [Memory.get?_save, Memory.get?_save, agree key own]

/-! ## Local steps -/

section Local

variable {γ ε δ : Type} {move : γ → Memory → ε → Option (γ × Memory)}
  {note : γ → Memory → ε → List δ} {named : JobKey → Prop} {c c' : γ} {e : ε} {m m' : Memory}

/-- A step looks at named records only, and changes no others. -/
structure Local (move : γ → Memory → ε → Option (γ × Memory)) (note : γ → Memory → ε → List δ)
    (named : JobKey → Prop) (c : γ) (e : ε) : Prop where
  frame : ∀ {m m' : Memory} {c' : γ}, move c m e = some (c', m') →
    ∀ key, ¬ named key → m'.get? key = m.get? key
  replay : ∀ {m m' a : Memory} {c' : γ}, move c m e = some (c', m') → m.Agree named a →
    note c a e = note c m e ∧ ∃ a', move c a e = some (c', a') ∧ m'.Agree named a'

/-- Where the named records are the same, a local step can happen in both or in neither, and leads to
the same. -/
theorem Local.same_next {a : Memory} (isLocal : Local move note named c e)
    (agree : m.Agree named a) : (move c m e).map (·.1) = (move c a e).map (·.1) := by
  cases here : move c m e with
  | some next =>
    obtain ⟨-, a', moved, -⟩ := isLocal.replay here agree
    rw [moved]
    rfl
  | none =>
    cases there : move c a e with
    | none => rfl
    | some next =>
      obtain ⟨-, m', moved, -⟩ := isLocal.replay there agree.symm
      rw [here] at moved
      cases moved

/-- A step that does not ask the store is local. -/
theorem Local.of_silent (next : Option γ) (silent : ∀ m, move c m e = next.map (·, m))
    (same : ∀ m a, note c a e = note c m e) : Local move note named c e where
  frame {m m' c'} happens key _ := by
    rw [silent, Option.map_eq_some_iff] at happens
    obtain ⟨z, -, eq⟩ := happens
    cases eq
    rfl
  replay {m m' a c'} happens agree := by
    rw [silent, Option.map_eq_some_iff] at happens
    obtain ⟨z, there, eq⟩ := happens
    cases eq
    refine ⟨same m a, a, ?_, agree⟩
    rw [silent, there, Option.map_some]

/-- A step that passes another one on is local if that one is. -/
theorem Local.lift {γ' ε' δ' : Type} {move' : γ' → Memory → ε' → Option (γ' × Memory)}
    {note' : γ' → Memory → ε' → List δ'} {x : γ'} {e' : ε'} (wrap : γ → γ') (tell : List δ → List δ')
    (inner : Local move note named c e)
    (moves : ∀ m, move' x m e' = (move c m e).map fun z => (wrap z.1, z.2))
    (notes : ∀ m, note' x m e' = tell (note c m e)) : Local move' note' named x e' where
  frame {m m' x'} happens key other := by
    rw [moves, Option.map_eq_some_iff] at happens
    obtain ⟨⟨z, memory⟩, there, eq⟩ := happens
    cases eq
    exact inner.frame there key other
  replay {m m' a x'} happens agree := by
    rw [moves, Option.map_eq_some_iff] at happens
    obtain ⟨⟨z, memory⟩, there, eq⟩ := happens
    cases eq
    obtain ⟨same, a', moved, agree'⟩ := inner.replay there agree
    exact ⟨by rw [notes, notes, same], a', by rw [moves, moved, Option.map_some], agree'⟩

/-- What a party that began with some jobs in memory has come to, as far as can be told from the
records that it names: the same as if it had taken its steps alone. -/
def Alone (move : γ → Memory → ε → Option (γ × Memory)) (note : γ → Memory → ε → List δ)
    (first : γ) (m : Memory) (steps : List ε) (named : JobKey → Prop) (now : Memory) (c : γ)
    (h : List δ) : Prop :=
  ∃ a, Run.last? (fun s e => move s.1 s.2 e) (first, m) steps = some (c, a) ∧
    Run.history (fun s e => move s.1 s.2 e) (fun s e => note s.1 s.2 e) (first, m) steps = h ∧
    now.Agree named a

variable {first : γ} {steps : List ε} {now now' : Memory} {h : List δ}

theorem Alone.begin (agree : now.Agree named m) : Alone move note first m [] named now first [] :=
  ⟨m, rfl, rfl, agree⟩

theorem Alone.step (before : Alone move note first m steps named now c h)
    (isLocal : Local move note named c e) (happens : move c now e = some (c', now')) :
    Alone move note first m (steps ++ [e]) named now' c' (h ++ note c now e) := by
  obtain ⟨a, run, noted, agree⟩ := before
  obtain ⟨same, a', moved, agree'⟩ := isLocal.replay happens agree
  refine ⟨a', ?_, ?_, agree'⟩
  · rw [Run.last?_append run, Run.last?, moved]
    rfl
  · rw [Run.history_append run, noted, Run.history, moved, same]
    simp [Run.history]

/-- Others go on without touching the records it names. -/
theorem Alone.wait (before : Alone move note first m steps named now c h)
    (same : now'.Agree named now) : Alone move note first m steps named now' c h := by
  obtain ⟨a, run, noted, agree⟩ := before
  exact ⟨a, run, noted, fun key own => (same key own).trans (agree key own)⟩

end Local

/-! ## Procedures -/

namespace Procedure

variable {α β : Type} {given : JobId → Prop} {named : JobKey → Prop} {post : α → Prop}
  {p p' : Procedure α} {m m' : Memory} {reply : Reply}

/-- Whatever the answers, a procedure asks for named jobs only and ends well, as long as it is given
certain identifiers only. -/
def Within (given : JobId → Prop) (named : JobKey → Prop) (post : α → Prop) : Procedure α → Prop
  | done a => post a
  | get key next =>
    named key ∧ (∀ cause, (next (.error cause)).Within given named post) ∧
      ∀ job, job.key = key → (next (.ok job)).Within given named post
  | save job next => named job.key ∧ ∀ answer, (next answer).Within given named post
  | now next => ∀ t, (next t).Within given named post
  | newId next => ∀ id, given id → (next id).Within given named post

theorem Within.bind {f : α → Procedure β} {post' : β → Prop}
    (within : p.Within given named post)
    (later : ∀ a, post a → (f a).Within given named post') :
    (p.bind f).Within given named post' := by
  induction p with
  | done a => exact later a within
  | get key next ih =>
    exact ⟨within.1, fun cause => ih _ (within.2.1 cause),
      fun job own => ih _ (within.2.2 job own)⟩
  | save job next ih => exact ⟨within.1, fun answer => ih _ (within.2 answer)⟩
  | now next ih => exact fun t => ih t (within t)
  | newId next ih => exact fun id fine => ih id (within id fine)

theorem Within.advance (within : p.Within given named post)
    (fine : ∀ id, reply = .identifier id → given id)
    (happens : p.advance? m reply = some (p', m')) : p'.Within given named post := by
  unfold advance? at happens
  split at happens
  next key next =>
    cases happens
    cases at_ : m.get? key with
    | none => simpa only [Store.get, at_] using within.2.1 _
    | some job => simpa only [Store.get, at_] using within.2.2 job (Memory.key_of_get? at_)
  next key next cause =>
    cases happens
    exact within.2.1 cause
  next job next =>
    cases happens
    exact within.2 _
  next job next cause =>
    cases happens
    exact within.2 _
  next next t =>
    cases happens
    exact within t
  next next id =>
    cases happens
    exact within id (fine id rfl)
  next => cases happens

/-- A procedure that asks for named jobs only takes local steps. -/
theorem Within.isLocal (within : p.Within given named post) (reply : Reply) :
    Local (fun p m reply => advance? m p reply) (fun p m reply => exchange m p reply) named p
      reply := by
  cases p with
  | done a =>
    refine Local.of_silent none (fun m => ?_) fun m a => rfl
    cases reply <;> rfl
  | get key next =>
    cases reply with
    | served =>
      refine ⟨fun happens key _ => ?_, fun {m m' a c'} happens agree => ?_⟩
      · cases happens
        rfl
      · cases happens
        have same : m.get? key = a.get? key := agree key within.1
        refine ⟨by rw [exchange, exchange, same], a, ?_, agree⟩
        simp only [advance?, Store.get, same]
    | failed cause => exact .of_silent (some _) (fun m => rfl) fun m a => rfl
    | time t => exact .of_silent none (fun m => rfl) fun m a => rfl
    | identifier id => exact .of_silent none (fun m => rfl) fun m a => rfl
  | save job next =>
    cases reply with
    | served =>
      refine ⟨fun happens key other => ?_, fun {m m' a c'} happens agree => ?_⟩
      · cases happens
        refine Memory.get?_save_of_ne _ job ?_
        rintro rfl
        exact other within.1
      · cases happens
        exact ⟨rfl, a.save job, rfl, agree.save job⟩
    | failed cause => exact .of_silent (some _) (fun m => rfl) fun m a => rfl
    | time t => exact .of_silent none (fun m => rfl) fun m a => rfl
    | identifier id => exact .of_silent none (fun m => rfl) fun m a => rfl
  | now next =>
    cases reply with
    | time t => exact .of_silent (some _) (fun m => rfl) fun m a => rfl
    | served => exact .of_silent none (fun m => rfl) fun m a => rfl
    | failed cause => exact .of_silent none (fun m => rfl) fun m a => rfl
    | identifier id => exact .of_silent none (fun m => rfl) fun m a => rfl
  | newId next =>
    cases reply with
    | identifier id => exact .of_silent (some _) (fun m => rfl) fun m a => rfl
    | served => exact .of_silent none (fun m => rfl) fun m a => rfl
    | failed cause => exact .of_silent none (fun m => rfl) fun m a => rfl
    | time t => exact .of_silent none (fun m => rfl) fun m a => rfl

end Procedure

namespace Manager

/-! ## Executions and operations -/

variable {named : JobKey → Prop}

/-- The job that was opened, if any, has a name. -/
def Opens (account : AccountId) (named : JobKey → Prop) (answer : Except Error (Job × Bool)) : Prop :=
  ∀ job created, answer = .ok (job, created) → named ⟨account, job.id⟩

theorem createJob_within (account : AccountId) (description : String) (named : JobKey → Prop) :
    (createJob account description).Within (fun id => named ⟨account, id⟩) named
      (Opens account named) := by
  intro id own t
  refine ⟨own, fun answer => ?_⟩
  cases answer with
  | error cause => exact fun job created eq => nomatch eq
  | ok done =>
    rintro job created ⟨⟩
    exact own

theorem openJob_within (account : AccountId) {existing : Option JobId} (description : String)
    (own : ∀ id, existing = some id → named ⟨account, id⟩) :
    (openJob account existing description).Within (fun id => named ⟨account, id⟩) named
      (Opens account named) := by
  unfold openJob
  cases existing with
  | none => exact createJob_within account description named
  | some id =>
    have mine := own id rfl
    refine ⟨mine, fun cause => ?_, fun job same => ?_⟩
    · simp only
      split
      · exact createJob_within account description named
      · exact fun job created eq => nomatch eq
    · rintro job created ⟨⟩
      rw [← same] at mine
      obtain ⟨rfl, -⟩ := JobKey.mk.inj same
      exact mine

theorem finalize_within {a : Assignment} (own : named a.key) (branch : Branch)
    (given : JobId → Prop) : (finalize a branch).Within given named fun _ => True := by
  cases branch with
  | completion last =>
    refine ⟨own, fun cause => trivial, fun job same t => ⟨?_, fun answer => ?_⟩⟩
    · have still : (completed a last t job).key = job.key := by
        rw [completed_eq_settled]
        rfl
      rw [still, same]
      exact own
    · cases answer <;> trivial
  | cancellation =>
    refine ⟨own, fun cause => trivial, fun job same t => ⟨?_, fun answer => trivial⟩⟩
    rw [← same] at own
    exact own

/-- The key of the job that an operation is about. -/
def Operation.key : Operation → JobKey
  | updateTask key _ _ _ | updateValue key _ _ | read key => key

theorem change_within {key : JobKey} {f : Instant → Job → Job} (still : ∀ t job, (f t job).key = job.key)
    (own : named key) (given : JobId → Prop) :
    (change key f).Within given named fun _ => True := by
  refine ⟨own, fun cause => trivial, fun job same t => ⟨?_, fun answer => trivial⟩⟩
  rw [still, same]
  exact own

theorem operation_within {o : Operation} (own : named o.key) (given : JobId → Prop) :
    o.procedure.Within given named fun _ => True := by
  cases o with
  | updateTask key status task message =>
    exact (change_within (fun t job => rfl) own given).bind fun answer _ => trivial
  | updateValue key name bytes =>
    exact (change_within (fun t job => rfl) own given).bind fun answer _ => trivial
  | read key => exact ⟨own, fun cause => trivial, fun job same => trivial⟩

/-- What is left of an execution asks for named jobs only.  A finalizer draws no identifier, so it
may be given any. -/
def Stage.Within (account : AccountId) (named : JobKey → Prop) : Stage → Prop
  | .opening rest _ => rest.Within (fun id => named ⟨account, id⟩) named (Opens account named)
  | .refused _ => True
  | .running call finalizer? =>
    named call.assignment.key ∧
      ∀ branch rest, finalizer? = some (branch, rest) →
        rest.Within (fun _ => True) named fun _ => True

namespace Execution

variable {x y : Execution} {m m' : Memory} {e : Event}

theorem within_of_apply (within : x.stage.Within x.request.account named)
    (fine : ∀ id, e = .prepare (.identifier id) → named ⟨x.request.account, id⟩)
    (happens : x.apply m e = some (y, m')) : y.stage.Within x.request.account named := by
  cases e with
  | prepare reply =>
    change x.prepare? m reply = _ at happens
    unfold prepare? at happens
    split at happens
    next rest c stage =>
      rw [stage] at within
      rw [Option.map_eq_some_iff] at happens
      obtain ⟨⟨rest', memory⟩, advanced, eq⟩ := happens
      cases eq
      exact Procedure.Within.advance within (fun id same => fine id (same ▸ rfl)) advanced
    · cases happens
  | enter =>
    simp only [apply, Option.map_eq_some_iff] at happens
    obtain ⟨z, entered, eq⟩ := happens
    cases eq
    rcases eq_of_enter entered with ⟨cause, c, stage, rfl⟩ | ⟨job, created, c, stage, rfl⟩
    · trivial
    · rw [stage] at within
      have opens : Opens x.request.account named (.ok (job, created)) := within
      exact ⟨opens job created rfl, fun branch rest eq => by cases eq⟩
  | cancel =>
    cases happens
    unfold cancel
    cases stage : x.stage with
    | opening rest c =>
      rw [stage] at within
      exact within
    | refused cause =>
      rw [stage] at within
      simpa only [stage] using within
    | running call finalizer? =>
      rw [stage] at within
      exact within
  | endWork last =>
    simp only [apply, Option.map_eq_some_iff] at happens
    obtain ⟨z, ended, eq⟩ := happens
    cases eq
    unfold endWork? at ended
    split at ended
    next call finalizer? stage =>
      rw [stage] at within
      split at ended
      · cases ended
        exact within
      · cases ended
    · cases ended
  | choose =>
    simp only [apply, Option.map_eq_some_iff] at happens
    obtain ⟨z, chosen, eq⟩ := happens
    cases eq
    obtain ⟨call, finalizer?, branch, stage, -, -, rfl⟩ := eq_of_choose chosen
    rw [stage] at within
    refine ⟨within.1, ?_⟩
    rintro _ _ ⟨⟩
    exact finalize_within within.1 branch _
  | finalize reply =>
    change x.finalize? m reply = _ at happens
    unfold finalize? at happens
    split at happens
    next call branch rest stage =>
      rw [stage] at within
      rw [Option.map_eq_some_iff] at happens
      obtain ⟨⟨rest', memory⟩, advanced, eq⟩ := happens
      cases eq
      refine ⟨within.1, ?_⟩
      rintro _ _ ⟨⟩
      exact (within.2 branch rest rfl).advance (fun _ _ => trivial) advanced
    · cases happens
  | finish now =>
    simp only [apply, Option.map_eq_some_iff] at happens
    obtain ⟨z, finished, eq⟩ := happens
    cases eq
    obtain ⟨call, branch, f, chosen, stage, -, rfl⟩ := eq_of_finish finished
    rw [stage] at within
    exact within
  | receive =>
    simp only [apply, Option.map_eq_some_iff] at happens
    obtain ⟨⟨what, z⟩, taken, eq⟩ := happens
    cases eq
    unfold receive? at taken
    split at taken
    next call finalizer? stage =>
      rw [stage] at within
      split at taken
      · cases taken
        exact within
      · cases taken
    · cases taken
  | stopListening =>
    simp only [apply, Option.map_eq_some_iff] at happens
    obtain ⟨z, dropped, eq⟩ := happens
    cases eq
    unfold stopListening? at dropped
    split at dropped
    next call finalizer? stage =>
      rw [stage] at within
      cases dropped
      exact within
    · cases dropped

/-- An execution that asks for named jobs only takes local steps. -/
theorem isLocal {account : AccountId} (within : x.stage.Within account named) (e : Event) :
    Local apply marks named x e := by
  cases e with
  | prepare reply =>
    cases stage : x.stage with
    | opening rest c =>
      rw [stage] at within
      refine (Procedure.Within.isLocal within reply).lift
        (fun rest => { x with stage := .opening rest c }) (·.map .exchanged) (fun m => ?_) fun m => ?_
      · simp only [apply, prepare?, stage]
      · simp only [marks, stage]
    | refused cause =>
      exact .of_silent none (fun m => by simp only [apply, prepare?, stage, Option.map_none])
        fun m a => by simp only [marks, stage]
    | running call finalizer? =>
      exact .of_silent none (fun m => by simp only [apply, prepare?, stage, Option.map_none])
        fun m a => by simp only [marks, stage]
  | finalize reply =>
    cases stage : x.stage with
    | running call finalizer? =>
      rw [stage] at within
      cases finalizer? with
      | none =>
        exact .of_silent none (fun m => by simp only [apply, finalize?, stage, Option.map_none])
          fun m a => by simp only [marks, stage]
      | some begun =>
        obtain ⟨branch, rest⟩ := begun
        refine ((within.2 branch rest rfl).isLocal reply).lift
          (fun rest => { x with stage := .running call (some (branch, rest)) }) (·.map .exchanged)
          (fun m => ?_) fun m => ?_
        · simp only [apply, finalize?, stage]
        · simp only [marks, stage]
    | opening rest c =>
      exact .of_silent none (fun m => by simp only [apply, finalize?, stage, Option.map_none])
        fun m a => by simp only [marks, stage]
    | refused cause =>
      exact .of_silent none (fun m => by simp only [apply, finalize?, stage, Option.map_none])
        fun m a => by simp only [marks, stage]
  | enter => exact .of_silent x.enter? (fun m => rfl) fun m a => rfl
  | cancel => exact .of_silent (some x.cancel) (fun m => rfl) fun m a => rfl
  | endWork last => exact .of_silent (x.endWork? last) (fun m => rfl) fun m a => rfl
  | choose => exact .of_silent x.choose? (fun m => rfl) fun m a => rfl
  | finish now => exact .of_silent x.finish? (fun m => rfl) fun m a => rfl
  | receive =>
    refine .of_silent (x.receive?.map (·.2)) (fun m => ?_) fun m a => rfl
    rw [Option.map_map]
    rfl
  | stopListening => exact .of_silent x.stopListening? (fun m => rfl) fun m a => rfl

end Execution

end Manager

end JobNode
