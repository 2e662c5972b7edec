import JobNode.Store.Backoff
import Mathlib.Algebra.Group.Action.Defs
import Mathlib.Algebra.GroupWithZero.Nat
import Mathlib.Algebra.Order.BigOperators.Group.List
import Mathlib.Algebra.Order.Group.Nat

/-!
# How often a write is tried

A write that meets a lock is tried again until it does not, or until no retries are left, and waits
once before each new attempt.  How long it waits is known up to the jitter, so that a run of
attempts is known up to the outcomes of the write and the delays drawn.

* `delay_within`: a delay doubles with each attempt, and has at most a quarter of jitter on top.
* `delays_in_band`: when a delay can be computed, and where it lies.
* `follows_runFrom`: what a run of attempts has to do with the outcomes of the write.
* `attempts_exact`: how many attempts there are, what is between them and what comes of them.
-/

namespace JobNode.Backoff

variable {b : Backoff} {α : Type} {draw : Nat → Nat} {op : Nat → Except Error α}

/-! ## Delays -/

/-- The delay without jitter, before it is cut at the limit, doubles up to the seventeenth attempt.
-/
theorem nanos_capped (b : Backoff) (attempt : Nat) :
    (b.capped attempt).nanos = min (b.base.nanos * 2 ^ min attempt 16) b.limit.nanos := by
  have shifted : 1 <<< Nat.min attempt 16 = 2 ^ min attempt 16 := Nat.one_shiftLeft _
  have fits := b.limit.nanos_le
  rw [capped, Duration.nanos_min, Duration.mul, Duration.nanos_saturating, shifted]
  change min (min _ _) _ = _
  omega

theorem le_capped (b : Backoff) (attempt : Nat) :
    min b.base.nanos b.limit.nanos ≤ (b.capped attempt).nanos := by
  have grown := Nat.le_mul_of_pos_right b.base.nanos (Nat.two_pow_pos (min attempt 16))
  rw [nanos_capped]
  omega

/-- The jitter is at most a quarter of the delay. -/
theorem jitter_le (b : Backoff) (attempt draw : Nat) :
    4 * (draw % b.jitterRange attempt * 1000) ≤ (b.capped attempt).nanos := by
  have below : draw % b.jitterRange attempt < b.jitterRange attempt :=
    Nat.mod_lt _ (Nat.succ_pos _)
  have word := Nat.mod_le (b.capped attempt).micros 18446744073709551616
  have micros : (b.capped attempt).micros * 1000 ≤ (b.capped attempt).nanos :=
    Nat.div_mul_le_self _ 1000
  rw [jitterRange] at below ⊢
  generalize draw % _ = jitter at below ⊢
  omega

/-- A delay is what the schedule says, with at most a quarter of jitter on top and at most the
limit. -/
structure DelayWithin (b : Backoff) (attempt : Nat) (d : Duration) : Prop where
  least : min b.base.nanos b.limit.nanos ≤ d.nanos
  most : d.nanos ≤ b.limit.nanos
  scheduled : min (b.base.nanos * 2 ^ min attempt 16) b.limit.nanos ≤ d.nanos
  jitter : 4 * (d.nanos - min (b.base.nanos * 2 ^ min attempt 16) b.limit.nanos) ≤
    min (b.base.nanos * 2 ^ min attempt 16) b.limit.nanos

theorem delay_within {attempt random : Nat} {d : Duration}
    (delayed : b.delay? attempt random = some d) : b.DelayWithin attempt d := by
  obtain ⟨sum, computed, rfl⟩ := Option.map_eq_some_iff.1 delayed
  have total : sum.nanos = (b.capped attempt).nanos + random % b.jitterRange attempt * 1000 := by
    unfold Duration.ofNanos? at computed
    split at computed <;> cases computed
    rfl
  have cut : (sum.min b.limit).nanos = min sum.nanos b.limit.nanos := Duration.nanos_min _ _
  have scheduled := nanos_capped b attempt
  have least := le_capped b attempt
  have jitter := jitter_le b attempt random
  constructor <;> omega

/-- The jitter is below 2⁶² microseconds, however long the delay. -/
theorem jitter_lt (b : Backoff) (attempt draw : Nat) :
    draw % b.jitterRange attempt * 1000 < 2 ^ 62 * 1000 := by
  have below : draw % b.jitterRange attempt < b.jitterRange attempt :=
    Nat.mod_lt _ (Nat.succ_pos _)
  have range : b.jitterRange attempt ≤ 2 ^ 62 := by
    rw [jitterRange]
    omega
  omega

/-- A delay cannot be computed just if the sum with the jitter is more than a duration holds. -/
theorem delay?_eq_none_iff {attempt draw : Nat} :
    b.delay? attempt draw = none ↔
      Duration.maxNanos < min (b.base.nanos * 2 ^ min attempt 16) b.limit.nanos +
        draw % b.jitterRange attempt * 1000 := by
  rw [delay?, Option.map_eq_none_iff, nanos_capped, Duration.ofNanos?]
  split
  next fits => exact iff_of_false (Option.some_ne_none _) (Nat.not_lt.2 fits)
  next beyond => exact iff_of_true rfl (Nat.lt_of_not_le beyond)

/-- **A delay stays in its band, where it can be computed.**  The factor fits a word of 32 bits and
the range of the jitter one of 64, and there is always some jitter to draw from.  A delay cannot be
computed just if the schedule and the jitter together pass the longest duration; where the limit is
2⁶² microseconds below that, every delay can be.  It lies between the base and the limit, or at the
limit if that is below the base. -/
theorem delays_in_band (b : Backoff) (attempt draw : Nat) :
    (1 <<< min attempt 16 < 2 ^ 32 ∧ 0 < b.jitterRange attempt ∧
      b.jitterRange attempt < 2 ^ 64) ∧
    (b.delay? attempt draw = none ↔
      Duration.maxNanos < min (b.base.nanos * 2 ^ min attempt 16) b.limit.nanos +
        draw % b.jitterRange attempt * 1000) ∧
    (b.limit.nanos + 2 ^ 62 * 1000 ≤ Duration.maxNanos →
      ∃ d, b.delay? attempt draw = some d) ∧
    (∀ d, b.delay? attempt draw = some d →
      min b.base.nanos b.limit.nanos ≤ d.nanos ∧ d.nanos ≤ b.limit.nanos) := by
  refine ⟨⟨?_, Nat.succ_pos _, ?_⟩, delay?_eq_none_iff, fun room => ?_, fun d delayed => ?_⟩
  · have least : min attempt 16 ≤ 16 := Nat.min_le_right _ _
    have grown : 2 ^ min attempt 16 ≤ 2 ^ 16 := Nat.pow_le_pow_right Nat.two_pos least
    rw [Nat.one_shiftLeft]
    omega
  · rw [jitterRange]
    omega
  · have jitter := jitter_lt b attempt draw
    rcases computed : b.delay? attempt draw with _ | d
    · have beyond := delay?_eq_none_iff.1 computed
      omega
    · exact ⟨d, rfl⟩
  · have within := delay_within delayed
    exact ⟨within.least, within.most⟩

theorem jobSave_delay_in_band :
    jobSave.limit.nanos + 2 ^ 62 * 1000 ≤ Duration.maxNanos ∧
      ∃ d, jobSave.delay? 4294967295 18446744073709551615 = some d ∧
        min jobSave.base.nanos jobSave.limit.nanos ≤ d.nanos ∧
        d.nanos ≤ jobSave.limit.nanos := by
  have room : jobSave.limit.nanos + 2 ^ 62 * 1000 ≤ Duration.maxNanos := by decide
  obtain ⟨-, -, some, band⟩ := delays_in_band jobSave 4294967295 18446744073709551615
  obtain ⟨d, delayed⟩ := some room
  exact ⟨room, d, delayed, band d delayed⟩

/-- Delays that begin and end at the longest duration. -/
def longestDelays : Backoff where
  retries := 1
  base := .longest
  limit := .longest

/-- No jitter fits on top of the longest duration, although the limit would cut it off again. -/
theorem longest_delay_fails :
    longestDelays.delay? 0 1 = none ∧
      ¬ ∃ d, longestDelays.delay? 0 1 = some d ∧
        min longestDelays.base.nanos longestDelays.limit.nanos ≤ d.nanos ∧
        d.nanos ≤ longestDelays.limit.nanos := by
  have failed : longestDelays.delay? 0 1 = none := by decide
  refine ⟨failed, ?_⟩
  rintro ⟨d, delayed, -⟩
  rw [failed] at delayed
  cases delayed

/-! ## Attempts -/

/-- The write met a lock. -/
def metLock : Except Error α → Bool
  | .ok _ => false
  | .error e => e.isContention

/-- Attempts with a delay between each two of them. -/
def alternating (delays : List Duration) : List Moment :=
  .attempt :: delays.flatMap fun d => [.pause d, .attempt]

theorem countP_alternating (delays : List Duration) :
    (alternating delays).countP Moment.isAttempt = delays.length + 1 := by
  induction delays with
  | nil => rfl
  | cons d rest ih =>
    change (Moment.attempt :: .pause d :: alternating rest).countP Moment.isAttempt = _
    rw [List.countP_cons_of_pos rfl, List.countP_cons_of_neg Bool.false_ne_true, ih,
      List.length_cons]

/-- What a run of attempts from a given one on, with `left` retries left, has to do with the
outcomes of the write: it goes on as long as the write meets a lock and retries are left. -/
structure Follows (b : Backoff) (draw : Nat → Nat) (op : Nat → Except Error α) (left attempt : Nat)
    (r : Run α) : Prop where
  moments : r.moments = alternating r.delays
  delayed : ∀ i d, r.delays[i]? = some d → b.delay? (attempt + i) (draw (attempt + i)) = some d
  within : r.delays.length ≤ left
  locked : ∀ i < r.delays.length, metLock (op (attempt + i)) = true
  stopped : r.delays.length = left ∨ metLock (op (attempt + r.delays.length)) = false
  result : r.result = op (attempt + r.delays.length)

/-- A run that ends with its first attempt. -/
theorem Follows.once {left attempt : Nat}
    (stopped : left = 0 ∨ metLock (op attempt) = false) :
    Follows b draw op left attempt ⟨[.attempt], op attempt⟩ where
  moments := rfl
  delayed _ _ at_ := nomatch at_
  within := Nat.zero_le _
  locked _ below := nomatch below
  stopped := stopped.imp_left Eq.symm
  result := rfl

/-- One more attempt in front of a run, which meets a lock. -/
theorem Follows.again {left attempt : Nat} {d : Duration} {r : Run α}
    (locked : metLock (op attempt) = true)
    (delayed : b.delay? attempt (draw attempt) = some d)
    (follows : Follows b draw op left (attempt + 1) r) :
    Follows b draw op (left + 1) attempt ⟨.attempt :: .pause d :: r.moments, r.result⟩ := by
  have delays : Run.delays (α := α) ⟨.attempt :: .pause d :: r.moments, r.result⟩ = d :: r.delays :=
    rfl
  have shift (i : Nat) : attempt + 1 + i = attempt + (i + 1) := by omega
  refine
    { moments := ?_
      delayed := fun i d' at_ => ?_
      within := ?_
      locked := fun i below => ?_
      stopped := ?_
      result := ?_ }
  · rw [delays, follows.moments]
    rfl
  · rw [delays] at at_
    cases i with
    | zero =>
      cases at_
      exact delayed
    | succ i =>
      have later := follows.delayed i d' at_
      rwa [shift] at later
  · rw [delays]
    exact Nat.succ_le_succ follows.within
  · rw [delays] at below
    cases i with
    | zero => exact locked
    | succ i =>
      have later := follows.locked i (Nat.lt_of_succ_lt_succ below)
      rwa [shift] at later
  · rw [delays, List.length_cons, ← shift]
    exact follows.stopped.imp_left (congrArg Nat.succ)
  · rw [delays, List.length_cons, ← shift]
    exact follows.result

/-- Where the delays can be computed the attempts come to an end. -/
theorem follows_runFrom {left attempt : Nat}
    (computed : ∀ i < left, (b.delay? (attempt + i) (draw (attempt + i))).isSome) :
    ∃ r, b.runFrom draw op left attempt = some r ∧ Follows b draw op left attempt r := by
  induction left generalizing attempt with
  | zero =>
    refine ⟨⟨[.attempt], op attempt⟩, ?_, .once (.inl rfl)⟩
    unfold runFrom
    cases op attempt <;> rfl
  | succ left ih =>
    cases outcome : op attempt with
    | ok a =>
      have unlocked : metLock (op attempt) = false := by rw [outcome]; rfl
      refine ⟨⟨[.attempt], op attempt⟩, ?_, .once (.inr unlocked)⟩
      rw [runFrom, outcome]
    | error e =>
      cases contention : e.isContention with
      | false =>
        have unlocked : metLock (op attempt) = false := by rw [outcome]; exact contention
        refine ⟨⟨[.attempt], op attempt⟩, ?_, .once (.inr unlocked)⟩
        rw [runFrom, outcome]
        simp only [contention, Bool.false_eq_true, if_false]
      | true =>
        have locked : metLock (op attempt) = true := by rw [outcome]; exact contention
        obtain ⟨d, delayed⟩ := Option.isSome_iff_exists.1 (computed 0 (Nat.succ_pos left))
        have later : ∀ i < left, (b.delay? (attempt + 1 + i) (draw (attempt + 1 + i))).isSome := by
          intro i below
          rw [Nat.add_right_comm]
          exact computed (i + 1) (Nat.succ_lt_succ below)
        obtain ⟨r, run, follows⟩ := ih later
        refine ⟨_, ?_, follows.again locked delayed⟩
        rw [runFrom, outcome]
        simp only [Nat.add_zero] at delayed
        simp only [contention, if_true, delayed, run, Option.map_some]

/-- The number of attempts, where the first outcome that is no lock is known. -/
theorem Follows.attempts_eq {r : Run α} (follows : Follows b draw op b.retries 0 r) {m : Nat}
    (before : ∀ i < m, metLock (op i) = true) (ends : metLock (op m) = false) :
    r.delays.length = min b.retries m := by
  have within := follows.within
  have upTo : r.delays.length ≤ m := by
    by_contra beyond
    have locked := follows.locked m (Nat.lt_of_not_le beyond)
    rw [Nat.zero_add, ends] at locked
    cases locked
  rcases follows.stopped with all | stopped
  · omega
  · have reached : ¬ r.delays.length < m := by
      intro short
      rw [Nat.zero_add, before _ short] at stopped
      cases stopped
    omega

/-- **A write is tried exactly as often as it should be.**  Where the delays can be computed, the
attempts come to an end with a result: there is one more of them than delays, and one delay between
each two; all but the last met a lock, and the last met none, unless no retry was left; so there
are as many as the retries allow, but no more than up to the first that met no lock, and the result
is the outcome of the last.  Each delay is what the schedule says, up to a quarter of jitter and
within the limit, and so is their sum. -/
theorem attempts_exact (computed : ∀ i < b.retries, (b.delay? i (draw i)).isSome) :
    ∃ r, b.run draw op = some r ∧
      r.moments = alternating r.delays ∧
      r.attempts = r.delays.length + 1 ∧
      r.attempts ≤ b.retries + 1 ∧
      (∀ i, i + 1 < r.attempts → metLock (op i) = true) ∧
      r.result = op (r.attempts - 1) ∧
      (metLock r.result = true → r.attempts = b.retries + 1) ∧
      (∀ m, (∀ i < m, metLock (op i) = true) → metLock (op m) = false →
        r.attempts = min (b.retries + 1) (m + 1)) ∧
      ((∀ i, metLock (op i) = true) → r.attempts = b.retries + 1) ∧
      (∀ i d, r.delays[i]? = some d → b.delay? i (draw i) = some d ∧ b.DelayWithin i d) ∧
      (r.delays.map Duration.nanos).sum ≤ b.retries * b.limit.nanos := by
  have fromZero : ∀ i < b.retries, (b.delay? (0 + i) (draw (0 + i))).isSome := by
    intro i below
    rw [Nat.zero_add]
    exact computed i below
  obtain ⟨r, run, follows⟩ := @follows_runFrom b α draw op b.retries 0 fromZero
  have count : r.attempts = r.delays.length + 1 := by
    rw [Run.attempts, follows.moments, countP_alternating]
  have within := follows.within
  have delayed (i : Nat) (d : Duration) (at_ : r.delays[i]? = some d) :
      b.delay? i (draw i) = some d := by
    have here := follows.delayed i d at_
    rwa [Nat.zero_add] at here
  have locked (i : Nat) (below : i < r.delays.length) : metLock (op i) = true := by
    have here := follows.locked i below
    rwa [Nat.zero_add] at here
  have result : r.result = op r.delays.length := by
    have last := follows.result
    rwa [Nat.zero_add] at last
  have stopped : r.delays.length = b.retries ∨ metLock (op r.delays.length) = false := by
    have last := follows.stopped
    rwa [Nat.zero_add] at last
  refine ⟨r, run, follows.moments, count, by omega, fun i below => locked i (by omega), ?_,
    fun still => ?_, fun m before ends => ?_, fun all => ?_,
    fun i d at_ => ⟨delayed i d at_, delay_within (delayed i d at_)⟩, ?_⟩
  · rw [count]
    exact result
  · rw [result] at still
    rcases stopped with every | none
    · rw [count, every]
    · rw [still] at none
      cases none
  · have exactly := follows.attempts_eq before ends
    omega
  · rcases stopped with every | none
    · rw [count, every]
    · rw [all] at none
      cases none
  · have each : ∀ n ∈ r.delays.map Duration.nanos, n ≤ b.limit.nanos := by
      intro n mem
      obtain ⟨d, there, rfl⟩ := List.mem_map.1 mem
      obtain ⟨i, at_⟩ := List.mem_iff_getElem?.1 there
      exact (delay_within (delayed i d at_)).most
    have sum := List.sum_le_card_nsmul _ _ each
    rw [List.length_map, smul_eq_mul] at sum
    exact sum.trans (Nat.mul_le_mul_right _ within)

/-- A write that meets a lock twice and then succeeds. -/
def sampleWrite : Nat → Except Error Nat
  | 0 => .error (.storage (.engine (some "5") "database is locked"))
  | 1 => .error (.storage (.engine none "Database is busy"))
  | n => .ok n

theorem sampleWrite_attempts :
    (∀ i < jobSave.retries, (jobSave.delay? i (1000 * i)).isSome) ∧
      ∃ r, jobSave.run (fun i => 1000 * i) sampleWrite = some r ∧ r.attempts = 3 ∧
        r.result.toOption = some 2 := by
  have computed : ∀ i < jobSave.retries, (jobSave.delay? i (1000 * i)).isSome := by decide +kernel
  obtain ⟨r, run, -, -, -, -, result, -, exactly, -⟩ :=
    @attempts_exact jobSave Nat (fun i => 1000 * i) sampleWrite computed
  have three : r.attempts = 3 := by
    refine exactly 2 (fun i below => ?_) rfl
    match i with
    | 0 => decide +kernel
    | 1 => decide +kernel
  rw [three] at result
  exact ⟨computed, r, run, three, by rw [result]; rfl⟩

end JobNode.Backoff
