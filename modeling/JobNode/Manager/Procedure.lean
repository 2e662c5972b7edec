import JobNode.Store.Basic

/-!
# Procedures on a job store

A procedure says step by step what it asks of the store, the clock and the source of new
identifiers, and what it does with each answer.  How the steps of several procedures alternate, and
which of them fail, is not its concern: `Procedure.run` carries one out on its own, and
`Procedure.advance?` takes a single step, so that the steps of many may come in any order.
-/

namespace JobNode

/-- A procedure that ends with a value of `α`. -/
inductive Procedure (α : Type) where
  | done (a : α)
  /-- Read the job under a key. -/
  | get (key : JobKey) (next : Except Error Job → Procedure α)
  /-- Save a job under its own key. -/
  | save (job : Job) (next : Except Error Unit → Procedure α)
  /-- Read the clock. -/
  | now (next : Instant → Procedure α)
  /-- Take a new identifier. -/
  | newId (next : JobId → Procedure α)

namespace Procedure

variable {α β : Type}

/-- One procedure after another. -/
def bind : Procedure α → (α → Procedure β) → Procedure β
  | done a, f => f a
  | get key next, f => get key fun answer => (next answer).bind f
  | save job next, f => save job fun answer => (next answer).bind f
  | now next, f => now fun t => (next t).bind f
  | newId next, f => newId fun id => (next id).bind f

instance : Monad Procedure where
  pure := done
  bind := bind

/-- What a procedure asks of its surroundings: a state with answers to each question. -/
structure Surroundings (σ : Type) where
  get : σ → JobKey → Except Error Job × σ
  save : σ → Job → Except Error Unit × σ
  now : σ → Instant × σ
  newId : σ → JobId × σ

/-- Carry out a procedure on its own. -/
def run {σ : Type} (env : Surroundings σ) : Procedure α → σ → α × σ
  | done a, s => (a, s)
  | get key next, s =>
    let (answer, s) := env.get s key
    (next answer).run env s
  | save job next, s =>
    let (answer, s) := env.save s job
    (next answer).run env s
  | now next, s =>
    let (t, s) := env.now s
    (next t).run env s
  | newId next, s =>
    let (id, s) := env.newId s
    (next id).run env s

@[simp]
theorem run_done {σ : Type} (env : Surroundings σ) (a : α) (s : σ) :
    (done a).run env s = (a, s) := rfl

theorem run_bind {σ : Type} (env : Surroundings σ) (p : Procedure α) (f : α → Procedure β)
    (s : σ) : (p.bind f).run env s = (f (p.run env s).1).run env (p.run env s).2 := by
  induction p generalizing s with
  | done a => rfl
  | get key next ih => exact ih _ _
  | save job next ih => exact ih _ _
  | now next ih => exact ih _ _
  | newId next ih => exact ih _ _

/-! ## Single steps -/

/-- The answer to one question of a procedure. -/
inductive Reply where
  /-- The store answers the read, or keeps the job. -/
  | served
  /-- The store fails. -/
  | failed (cause : Error)
  | time (t : Instant)
  | identifier (id : JobId)

/-- What is left of a procedure after one answer, and the jobs after it; none if the procedure has
ended or asks something else. -/
def advance? (m : Memory) : Procedure α → Reply → Option (Procedure α × Memory)
  | get key next, .served => some (next ((Store.memory m).get key), m)
  | get _ next, .failed cause => some (next (.error cause), m)
  | save job next, .served => some (next (.ok ()), m.save job)
  | save _ next, .failed cause => some (next (.error cause), m)
  | now next, .time t => some (next t, m)
  | newId next, .identifier id => some (next id, m)
  | _, _ => none

/-- The same for a store, given the time at which it saves.  A closed store says so itself. -/
def ask? (s : Store) (time : Instant) : Procedure α → Reply → Option (Procedure α × Store)
  | get key next, .served => some (next (s.get key), s)
  | get _ next, .failed cause => some (next (.error cause), s)
  | save job next, .served =>
    match s.save job time with
    | .ok s => some (next (.ok ()), s)
    | .error cause => some (next (.error cause), s)
  | save _ next, .failed cause => some (next (.error cause), s)
  | now next, .time t => some (next t, s)
  | newId next, .identifier id => some (next id, s)
  | _, _ => none

theorem ask?_memory (m : Memory) (time : Instant) (p : Procedure α) (reply : Reply) :
    p.ask? (.memory m) time reply =
      (p.advance? m reply).map fun (rest, m) => (rest, .memory m) := by
  cases p <;> cases reply <;> rfl

end Procedure

end JobNode
