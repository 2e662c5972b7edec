import JobNode.Manager.Traffic
import JobNode.Proofs.Run

/-!
# What traffic can reach

Procedures that get one answer after the other, with nothing in between, are among the runs of
`Traffic`.  Each theorem here is such a run, up to the point where the procedure has ended.

* `Traffic.reaches_operate`: an operation.
* `Traffic.reaches_request`, `Traffic.reaches_enter`: the opening of a job, and the entry.
* `Traffic.reaches_finish`: a finalizer, from the choice to the outcome.
-/

namespace JobNode

/-- What is left of a procedure after answers, and the jobs after them. -/
def Procedure.advances? {α : Type} (p : Procedure α) (m : Memory) (replies : List Reply) :
    Option (Procedure α × Memory) :=
  Run.last? (fun c reply => c.1.advance? c.2 reply) (p, m) replies

open Run (Reaches)

/-- The answers of a procedure are steps of the machine that holds it, if each answer is. -/
theorem Procedure.reaches_of_advances {α σ ε : Type} {apply : σ → ε → Option σ}
    (place : Procedure α → Memory → σ) (event : Reply → ε)
    (step : ∀ p p' m m' reply, Procedure.advance? m p reply = some (p', m') →
      apply (place p m) (event reply) = some (place p' m'))
    {p p' : Procedure α} {m m' : Memory} {replies : List Reply}
    (advanced : p.advances? m replies = some (p', m')) :
    Reaches apply (place p m) (place p' m') := by
  induction replies generalizing p m with
  | nil =>
    cases advanced
    exact .refl _
  | cons reply rest ih =>
    simp only [Procedure.advances?, Run.last?] at advanced
    split at advanced
    next next first => exact .head (step _ _ _ _ _ first) (ih advanced)
    · cases advanced

namespace Manager.Traffic

/-- An operation that gets its answers comes to its end. -/
theorem reaches_operate (t : Traffic) (o : Operation) {replies : List Procedure.Reply}
    {p' : Procedure (Except Error (Option Job))} {m' : Memory}
    (advanced : o.procedure.advances? t.memory replies = some (p', m')) :
    Reaches apply t { t with memory := m', operations := t.operations ++ [p'] } := by
  let place (p : Procedure (Except Error (Option Job))) (m : Memory) : Traffic :=
    { t with memory := m, operations := t.operations ++ [p] }
  have comes : t.apply (.operate o) = some (place o.procedure t.memory) := rfl
  refine .head comes
    (Procedure.reaches_of_advances place (.operation t.operations.length) ?_ advanced)
  intro p p' m m' reply advanced
  have at_ : (t.operations ++ [p])[t.operations.length]? = some p := List.getElem?_concat_length
  simp only [apply, place, at_, advanced, Option.map_some,
    List.set_append_right _ _ (Nat.le_refl _), Nat.sub_self, List.set_cons_zero]

/-- A request whose opening gets its answers comes to the end of the opening. -/
theorem reaches_request (t : Traffic) (r : Request) {replies : List Procedure.Reply}
    {rest : Procedure (Except Error (Job × Bool))} {m' : Memory}
    (advanced : (openJob r.account r.existing r.description).advances? t.memory replies =
      some (rest, m')) :
    Reaches apply t
      { t with memory := m', executions := t.executions ++ [⟨r, .opening rest false⟩] } := by
  let place (p : Procedure (Except Error (Job × Bool))) (m : Memory) : Traffic :=
    { t with memory := m, executions := t.executions ++ [⟨r, .opening p false⟩] }
  have comes : t.apply (.request r) =
      some (place (openJob r.account r.existing r.description) t.memory) := rfl
  let event (reply : Procedure.Reply) : Event :=
    .execution t.executions.length (.prepare reply)
  refine .head comes (Procedure.reaches_of_advances place event ?_ advanced)
  intro p p' m m' reply advanced
  have at_ : (t.executions ++ [⟨r, .opening p false⟩])[t.executions.length]? =
    some ⟨r, .opening p false⟩ := List.getElem?_concat_length
  simp only [apply, place, event, at_, Execution.apply, Execution.prepare?, advanced,
    Option.map_some, List.set_append_right _ _ (Nat.le_refl _), Nat.sub_self,
    List.set_cons_zero, announce]

/-- A step of an execution is a step of the traffic. -/
theorem apply_execution {t : Traffic} {i : Nat} {x y : Execution} {e : Execution.Event} {m : Memory}
    (at_ : t.executions[i]? = some x) (moves : x.apply t.memory e = some (y, m)) :
    t.apply (.execution i e) = some
      { t with
        memory := m
        executions := t.executions.set i y
        deliveries := announce t.deliveries x e } := by
  simp only [apply, at_, moves, Option.map_some]

/-- An execution whose job was opened enters, cancelled before or not. -/
theorem reaches_enter (t : Traffic) (before : List Execution) (r : Request) (job : Job)
    (created cancelled : Bool) :
    let call := Call.create ⟨r.account, job.id, job.description, created⟩
    Reaches apply
      { t with
        executions := before ++ [⟨r, .opening (.done (.ok (job, created))) false⟩] }
      { t with
        executions := before ++ [⟨r, .running (if cancelled then call.cancel else call) none⟩] } := by
  intro call
  let place (stage : Stage) : Traffic := { t with executions := before ++ [⟨r, stage⟩] }
  have step {stage stage' : Stage} {e : Execution.Event}
      (moves : (Execution.mk r stage).apply t.memory e = some (⟨r, stage'⟩, t.memory))
      (silent : announce t.deliveries ⟨r, stage⟩ e = t.deliveries) :
      (place stage).apply (.execution before.length e) = some (place stage') := by
    have at_ : (place stage).executions[before.length]? = some ⟨r, stage⟩ :=
      List.getElem?_concat_length
    rw [apply_execution at_ moves]
    simp only [place, silent, List.set_append_right _ _ (Nat.le_refl _), Nat.sub_self,
      List.set_cons_zero]
  cases cancelled with
  | false => exact .one (step (e := .enter) rfl rfl)
  | true =>
    have stopped : (place (.opening (.done (.ok (job, created))) false)).apply
        (.execution before.length .cancel) =
      some (place (.opening (.done (.ok (job, created))) true)) := step rfl rfl
    exact .head stopped (.one (step (e := .enter) rfl rfl))

/-- A finalizer that gets its answers comes to its end. -/
theorem reaches_finalize (t : Traffic) {i : Nat} {x : Execution} {call : Call} {branch : Branch}
    {p p' : Procedure Finalized} {replies : List Procedure.Reply} {m' : Memory}
    (inRange : i < t.executions.length)
    (advanced : p.advances? t.memory replies = some (p', m')) :
    Reaches apply
      { t with
        executions := t.executions.set i { x with stage := .running call (some (branch, p)) } }
      { t with
        memory := m'
        executions := t.executions.set i { x with stage := .running call (some (branch, p')) } } := by
  let place (p : Procedure Finalized) (m : Memory) : Traffic :=
    { t with
      memory := m
      executions := t.executions.set i { x with stage := .running call (some (branch, p)) } }
  refine Procedure.reaches_of_advances place (fun reply => .execution i (.finalize reply)) ?_
    advanced
  intro p p' m m' reply advanced
  simp only [apply, place, List.getElem?_set_self inRange, Execution.apply, Execution.finalize?,
    advanced, Option.map_some, List.set_set, announce]

/-- A call that chooses its way, gets its answers and sends the outcome. -/
theorem reaches_finish (t : Traffic) {i : Nat} {x : Execution} {call chosen next : Call}
    {branch : Branch} {finalizer? : Option (Branch × Procedure Finalized)} {f : Finalized}
    {replies : List Procedure.Reply} {m' : Memory} (at_ : t.executions[i]? = some x)
    (stage : x.stage = .running call finalizer?) (way : call.choose? = some (branch, chosen))
    (run : (finalize chosen.assignment branch).advances? t.memory replies = some (.done f, m'))
    (sent : chosen.finish? f = some next) (now : Instant) :
    Reaches apply t
      { t with
        memory := m'
        executions := t.executions.set i { x with stage := .running next (some (branch, .done f)) }
        deliveries :=
          match announcement? chosen.assignment f now with
          | some message => t.deliveries.dispatch message
          | none => t.deliveries } := by
  let at_way (call : Call) (p : Procedure Finalized) : Execution :=
    { x with stage := .running call (some (branch, p)) }
  have inRange := (List.getElem?_eq_some_iff.1 at_).1
  have chooses : x.apply t.memory .choose =
      some (at_way chosen (finalize chosen.assignment branch), t.memory) := by
    simp only [Execution.apply, Execution.choose?, stage, way, Option.map_some, at_way]
  have finishes : (at_way chosen (.done f)).apply m' (.finish now) =
      some (at_way next (.done f), m') := by
    simp only [Execution.apply, Execution.finish?, sent, Option.map_some, at_way]
  have last := apply_execution
    (t := { t with memory := m', executions := t.executions.set i (at_way chosen (.done f)) })
    (List.getElem?_set_self inRange) finishes
  rw [List.set_set] at last
  exact (Reaches.head (apply_execution at_ chooses) (reaches_finalize t inRange run)).trans
    (.one last)

end Manager.Traffic

end JobNode
