import JobNode.Queue.Collecting

/-!
# The turns of a collector

A collector takes one turn after the other until it is over.  One that has not heard all
announcements looks at the slot again before it sleeps: if the outcome is there, it gets closer to it
with every turn.

* `Collector.moves_of_turn`: what a turn can be.
* `Collector.Stage.Alert.turn`: each turn brings a call closer to an outcome that is there.
* `Collector.poll_eq`: what a call that nobody disturbs comes to.
-/

namespace JobNode

namespace Collector

variable {x : Collector} {b : Backend} {announced now : Nat} {act : Act} {stage : Stage}
  {outcome : Outcome}

/-- What a turn can be, and when it is. -/
inductive Moves (x : Collector) (b : Backend) (announced now : Nat) : Act → Stage → Stage → Prop
  | enter : Moves x b announced now .go .entering (.registered announced)
  | find (heard : Nat) {outcome : Outcome} (found : b.outcome? x.id = some outcome) :
    Moves x b announced now .go (.registered heard) (.answered outcome)
  | miss (heard : Nat) (missing : b.outcome? x.id = none) :
    Moves x b announced now .go (.registered heard) (.missed heard)
  | hear {heard : Nat} (less : heard < announced) :
    Moves x b announced now .go (.missed heard) .entering
  | hearNothing {heard : Nat} (all : ¬ heard < announced) :
    Moves x b announced now .go (.missed heard) (.unheard heard)
  | stop (heard : Nat) (late : x.deadline ≤ now) :
    Moves x b announced now .go (.unheard heard) (.answered x.timeout)
  | sleep (heard : Nat) (early : ¬ x.deadline ≤ now) :
    Moves x b announced now .go (.unheard heard) (.asleep heard)
  | wake {heard : Nat} (called : heard < announced ∨ x.deadline ≤ now) :
    Moves x b announced now .go (.asleep heard) (.missed heard)
  | stir (heard : Nat) : Moves x b announced now .stir (.asleep heard) (.missed heard)
  | leave {stage : Stage} (busy : x.isOver = false) : Moves x b announced now .leave stage .left

theorem moves_of_turn (goes : x.turn? b announced now act = some stage) :
    x.Moves b announced now act x.stage stage := by
  cases act with
  | go =>
    rw [turn?] at goes
    cases at_ : x.stage with
    | entering =>
      simp only [at_] at goes
      cases goes
      exact .enter
    | registered heard =>
      simp only [at_] at goes
      split at goes
      next found =>
        cases goes
        exact .find heard found
      next missing =>
        cases goes
        exact .miss heard missing
    | missed heard =>
      simp only [at_] at goes
      split at goes
      next less =>
        cases goes
        exact .hear less
      next all =>
        cases goes
        exact .hearNothing all
    | unheard heard =>
      simp only [at_] at goes
      split at goes
      next late =>
        cases goes
        exact .stop heard late
      next early =>
        cases goes
        exact .sleep heard early
    | asleep heard =>
      simp only [at_] at goes
      split at goes
      next called =>
        cases goes
        exact .wake called
      · cases goes
    | answered answer =>
      simp only [at_] at goes
      cases goes
    | left =>
      simp only [at_] at goes
      cases goes
  | stir =>
    rw [turn?] at goes
    split at goes
    next heard at_ =>
      cases goes
      rw [at_]
      exact .stir heard
    · cases goes
  | leave =>
    rw [turn?] at goes
    split at goes
    · cases goes
    next busy =>
      cases goes
      exact .leave (Bool.eq_false_iff.2 busy)

/-- A collector is given up only by its caller. -/
theorem leave_of_left (goes : x.turn? b announced now act = some .left) : act = .leave := by
  have moves := moves_of_turn goes
  generalize x.stage = before at moves
  cases moves with
  | leave busy => rfl

/-- A collector that is over does nothing more. -/
theorem not_over_of_turn (goes : x.turn? b announced now act = some stage) :
    x.isOver = false := by
  have moves := moves_of_turn goes
  generalize at_ : x.stage = before at moves
  cases moves with
  | leave busy => exact busy
  | _ => rw [isOver, at_]

/-! ## Towards an answer -/

/-- The most turns that a collector takes from here, once its outcome has been announced. -/
def Stage.rank : Stage → Nat
  | answered _ | left => 0
  | registered _ => 1
  | entering => 2
  | missed _ => 3
  | asleep _ => 4
  | unheard _ => 5

/-- The collector looks at the slot again before it sleeps. -/
def Stage.Alert (announced : Nat) : Stage → Prop
  | missed heard | unheard heard | asleep heard => heard < announced
  | entering | registered _ | answered _ | left => True

theorem Stage.rank_le (stage : Stage) : stage.rank ≤ 5 := by
  cases stage <;> simp [rank]

theorem Stage.Alert.mono {later : Nat} (alert : stage.Alert announced) (le : announced ≤ later) :
    stage.Alert later := by
  cases stage with
  | missed heard | unheard heard | asleep heard => exact Nat.lt_of_lt_of_le alert le
  | _ => trivial

theorem isOver_of_rank (last : x.stage.rank = 0) : x.isOver := by
  unfold isOver
  cases at_ : x.stage with
  | answered answer => rfl
  | left => rfl
  | _ =>
    rw [at_] at last
    cases last

/-- An alert collector can go on until it is over. -/
theorem Stage.Alert.exists_turn (alert : x.stage.Alert announced) (busy : x.isOver = false) :
    ∃ stage, x.turn? b announced now .go = some stage := by
  unfold turn? isOver at *
  cases at_ : x.stage with
  | registered heard =>
    simp only
    split <;> exact ⟨_, rfl⟩
  | asleep heard =>
    rw [at_] at alert
    exact ⟨_, if_pos (.inl alert)⟩
  | answered answer => simp [at_] at busy
  | left => simp [at_] at busy
  | _ => exact ⟨_, rfl⟩

/-- A turn of an alert collector brings it closer to the outcome that is there; only one that was
about to look at its timer may find its time up. -/
theorem Stage.Alert.turn (alert : x.stage.Alert announced) (found : b.outcome? x.id = some outcome)
    (goes : x.turn? b announced now act = some stage) :
    stage.Alert announced ∧ stage.rank < x.stage.rank ∧
      ∀ answer, stage = .answered answer → answer = outcome ∨ x.stage.rank = 5 := by
  have moves := moves_of_turn goes
  have turns : x.stage.rank ≠ 0 := by
    intro last
    have busy := not_over_of_turn goes
    rw [isOver_of_rank last] at busy
    cases busy
  generalize x.stage = before at alert moves turns ⊢
  cases moves with
  | enter => exact ⟨trivial, by simp [Stage.rank], nofun⟩
  | find heard there =>
    rw [found] at there
    cases there
    refine ⟨trivial, by simp [Stage.rank], ?_⟩
    rintro _ ⟨⟩
    exact .inl rfl
  | miss heard missing =>
    rw [found] at missing
    cases missing
  | hear less => exact ⟨trivial, by simp [Stage.rank], nofun⟩
  | hearNothing all => exact absurd alert all
  | stop heard late => exact ⟨trivial, by simp [Stage.rank], fun _ _ => .inr rfl⟩
  | sleep heard early => exact ⟨alert, by simp [Stage.rank], nofun⟩
  | wake called => exact ⟨alert, by simp [Stage.rank], nofun⟩
  | stir heard => exact ⟨alert, by simp [Stage.rank], nofun⟩
  | leave busy => exact ⟨trivial, Nat.pos_of_ne_zero turns, nofun⟩

/-! ## Undisturbed turns -/

theorem goOn_of_turn {n : Nat} (after : Stage) (goes : x.turn? b announced now .go = some after) :
    x.goOn b announced now (n + 1) = goOn b announced now n { x with stage := after } := by
  rw [goOn, goes]

/-- A call that is over or sleeps stays as it is. -/
theorem goOn_of_stay (n : Nat) (stays : x.turn? b announced now .go = none) :
    x.goOn b announced now n = x := by
  cases n with
  | zero => rfl
  | succ n => rw [goOn, stays]

/-- Four turns are enough for a look at the slot, and one at the timer. -/
theorem goOn_of_entering (n : Nat) (begins : x.stage = .entering) :
    x.goOn b announced now (n + 4) =
      { x with
        stage :=
          match b.answer? x.id x.limit (x.deadline ≤ now) with
          | some answer => .answered answer
          | none => .asleep announced } := by
  have entered : x.turn? b announced now .go = some (.registered announced) := by
    rw [turn?, begins]
  rw [goOn_of_turn _ entered]
  cases found : b.outcome? x.id with
  | some outcome =>
    simp only [Backend.answer?, found]
    rw [goOn_of_turn (.answered outcome) (by simp only [turn?, found])]
    exact goOn_of_stay _ rfl
  | none =>
    have unheard : ¬ announced < announced := Nat.lt_irrefl _
    simp only [Backend.answer?, found]
    rw [goOn_of_turn (.missed announced) (by simp only [turn?, found]),
      goOn_of_turn (.unheard announced) (by simp only [turn?, unheard, if_false])]
    by_cases late : x.deadline ≤ now
    · rw [goOn_of_turn (.answered x.timeout) (by simp only [turn?, late, if_true]; rfl)]
      simp only [late, decide_true, if_true]
      exact goOn_of_stay _ rfl
    · rw [goOn_of_turn (.asleep announced) (by simp only [turn?, late, if_false])]
      simp only [late, decide_false, Bool.false_eq_true, if_false]
      exact goOn_of_stay _ (by simp only [turn?, unheard, late, or_self, if_false])

/-- A call that begins, or is woken by an announcement, comes to what the backend answers, or
sleeps. -/
theorem poll_eq (ready : x.stage = .entering ∨ ∃ heard < announced, x.stage = .asleep heard) :
    x.poll b announced now =
      { x with
        stage :=
          match b.answer? x.id x.limit (x.deadline ≤ now) with
          | some answer => .answered answer
          | none => .asleep announced } := by
  rcases ready with begins | ⟨heard, less, sleeps⟩
  · exact goOn_of_entering 2 begins
  · have woken : x.turn? b announced now .go = some (.missed heard) := by
      simp only [turn?, sleeps, less, true_or, if_true]
    have again : turn? { x with stage := .missed heard } b announced now .go =
        some .entering := by
      simp only [turn?, less, if_true]
    rw [poll, goOn_of_turn _ woken, goOn_of_turn _ again]
    exact goOn_of_entering 0 rfl

end Collector

end JobNode
