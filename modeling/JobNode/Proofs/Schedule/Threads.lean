import JobNode.Schedule.Basic

/-!
# Runs of threads

Between any two times threads do nothing but take turns.  What every turn does to the shared state
is therefore what any stretch of a run does to it, whichever thread comes first and however the
clock moves.

* `Rules.Keeps`: a relation between states, of which a turn is one and several make one.
* `Rules.Keeps.runUntil`, `Rules.Keeps.advance`, `Rules.Keeps.pass`: the stretches of a run.
-/

namespace JobNode.Schedule

variable {σ κ : Type}

/-- To collect threads changes nothing that they share. -/
@[simp]
theorem Threads.state_collect (rules : Rules σ κ) (t : Threads σ κ) :
    (t.collect rules).state = t.state := by
  unfold Threads.collect
  simp only
  split <;> rfl

theorem Threads.pass_eq (rules : Rules σ κ) (d : Duration) (t : Threads σ κ) :
    t.pass rules d =
      if timerAt t.now d ≤ t.now then t else t.advance rules (timerAt t.now d - t.now) := rfl

/-- A turn leads from a state to a related one, and so do several. -/
structure Rules.Keeps (rules : Rules σ κ) (rel : σ → σ → Prop) : Prop where
  refl (s : σ) : rel s s
  trans {s mid next : σ} : rel s mid → rel mid next → rel s next
  turn (now : Nat) (s : σ) (thread : κ) : rel s (rules.turn now s thread).state

namespace Rules.Keeps

variable {rules : Rules σ κ} {rel : σ → σ → Prop} (keeps : rules.Keeps rel)
include keeps

theorem step {t next : Threads σ κ} (happens : t.step? rules = some next) :
    rel t.state next.state := by
  unfold Threads.step? at happens
  split at happens
  · cases happens
  next thread queue turns =>
    cases happens
    rw [Threads.state_collect]
    exact keeps.turn t.now t.state thread

theorem turns (fuel : Nat) (t : Threads σ κ) : rel t.state (t.turns rules fuel).state := by
  induction fuel generalizing t with
  | zero => exact keeps.refl t.state
  | succ fuel ih =>
    rw [Threads.turns]
    split
    next next happens => exact keeps.trans (keeps.step happens) (ih next)
    · exact keeps.refl t.state

theorem settle (t : Threads σ κ) : rel t.state (t.settle rules).state := by
  have turns := keeps.turns Threads.maxTurns (t.collect rules)
  rw [Threads.state_collect] at turns
  rw [Threads.settle]
  exact turns

theorem runUntil {wanted : σ → Bool} {deadline : Option Nat} {fuel : Nat} {t next : Threads σ κ}
    {reached : Bool} (run : t.runUntil rules wanted deadline fuel = some (reached, next)) :
    rel t.state next.state := by
  -- between two stretches of turns only the clock moves
  induction fuel generalizing t with
  | zero => cases run
  | succ fuel ih =>
    have settled := keeps.settle t
    simp only [Threads.runUntil] at run
    split at run
    · cases run
      exact keeps.refl _
    · split at run
      · cases run
        exact keeps.refl _
      · split at run
        · cases run
          exact settled
        · split at run
          · cases run
          · have later := ih run
            exact keeps.trans settled later
          · cases run
            exact settled
          · split at run
            · cases run
              exact settled
            · have later := ih run
              exact keeps.trans settled later

theorem advance (span : Nat) (t : Threads σ κ) : rel t.state (t.advance rules span).state := by
  unfold Threads.advance
  split
  next reached next run =>
    exact keeps.trans (keeps.settle t) (keeps.trans (keeps.runUntil run) (keeps.settle next))
  · exact keeps.refl t.state

theorem pass (d : Duration) (t : Threads σ κ) : rel t.state (t.pass rules d).state := by
  rw [Threads.pass_eq]
  by_cases late : timerAt t.now d ≤ t.now
  · rw [if_pos late]
    exact keeps.refl t.state
  · rw [if_neg late]
    exact keeps.advance _ t

end Rules.Keeps

end JobNode.Schedule
