/-!
# Durations

A duration is a whole number of nanoseconds, at most 2⁶⁴ seconds less one nanosecond.  Arithmetic
stops at that bound instead of passing it.
-/

namespace JobNode

/-- The largest number of nanoseconds of a duration. -/
def Duration.maxNanos : Nat := 18446744073709551615999999999

/-- A span of time. -/
structure Duration where
  nanos : Nat
  nanos_le : nanos ≤ Duration.maxNanos
  deriving DecidableEq

namespace Duration

/-- Nanoseconds in a second. -/
abbrev nanosPerSecond : Nat := 1000000000

/-- The duration of `n` nanoseconds, or the longest one. -/
def saturating (n : Nat) : Duration :=
  ⟨min n maxNanos, Nat.min_le_right _ _⟩

/-- The duration of `n` nanoseconds, if there is one. -/
def ofNanos? (n : Nat) : Option Duration :=
  if h : n ≤ maxNanos then some ⟨n, h⟩ else none

/-- The empty duration. -/
def zero : Duration := ⟨0, Nat.zero_le _⟩

/-- The longest duration. -/
def longest : Duration := ⟨maxNanos, Nat.le_refl _⟩

/-- The duration of `n` seconds. -/
def ofSecs (n : Nat) : Duration := saturating (n * nanosPerSecond)

/-- The duration of `n` milliseconds. -/
def ofMillis (n : Nat) : Duration := saturating (n * 1000000)

/-- The duration of `n` microseconds. -/
def ofMicros (n : Nat) : Duration := saturating (n * 1000)

/-- Whole seconds. -/
def secs (d : Duration) : Nat := d.nanos / nanosPerSecond

/-- Nanoseconds past the last whole second. -/
def subsecNanos (d : Duration) : Nat := d.nanos % nanosPerSecond

/-- Whole microseconds. -/
def micros (d : Duration) : Nat := d.nanos / 1000

/-- The duration is empty. -/
def isZero (d : Duration) : Bool := d.nanos == 0

/-- The sum, or the longest duration. -/
def add (a b : Duration) : Duration := saturating (a.nanos + b.nanos)

/-- The `k`-fold duration, or the longest one. -/
def mul (d : Duration) (k : Nat) : Duration := saturating (d.nanos * k)

/-- The shorter of two durations. -/
def min (a b : Duration) : Duration := if a.nanos ≤ b.nanos then a else b

instance : Inhabited Duration := ⟨zero⟩

instance : LE Duration := ⟨fun a b => a.nanos ≤ b.nanos⟩

instance (a b : Duration) : Decidable (a ≤ b) := inferInstanceAs (Decidable (a.nanos ≤ b.nanos))

@[ext]
theorem ext {a b : Duration} (h : a.nanos = b.nanos) : a = b := by
  cases a
  cases b
  cases h
  rfl

theorem le_def {a b : Duration} : a ≤ b ↔ a.nanos ≤ b.nanos := Iff.rfl

@[simp]
theorem nanos_saturating (n : Nat) : (saturating n).nanos = Nat.min n maxNanos := rfl

@[simp]
theorem nanos_min (a b : Duration) : (a.min b).nanos = Nat.min a.nanos b.nanos := by
  unfold Duration.min
  split
  next h => exact (Nat.min_eq_left h).symm
  next h => exact (Nat.min_eq_right (Nat.le_of_not_le h)).symm

end Duration

end JobNode
