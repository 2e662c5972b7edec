import JobNode.Duration.Basic
import JobNode.Instant.Calendar

/-!
# Instants

A point in time in UTC, to the nanosecond, in the years -262143 to 262142.  A leap second is kept
as a fraction of more than a second, so instants are ordered by second and then by fraction.  Leap
seconds belong at the end of a minute, but an instant may have such a fraction on any second.
-/

namespace JobNode

namespace Instant

/-- Seconds from the epoch to the first instant. -/
def minSeconds : Int := -8334601228800

/-- Seconds from the epoch to the last second. -/
def maxSeconds : Int := 8210266876799

end Instant

/-- A point in time in UTC. -/
structure Instant where
  /-- Seconds since 1970-01-01T00:00:00Z, leap seconds not counted. -/
  seconds : Int
  /-- Nanoseconds past the second; a second or more inside a leap second. -/
  fraction : Nat
  seconds_ge : Instant.minSeconds ≤ seconds
  seconds_le : seconds ≤ Instant.maxSeconds
  fraction_lt : fraction < 2000000000
  deriving DecidableEq

namespace Instant

/-- The instant with the given second and fraction, if there is one. -/
def ofParts? (seconds : Int) (fraction : Nat) : Option Instant :=
  if h : minSeconds ≤ seconds ∧ seconds ≤ maxSeconds ∧ fraction < 2000000000 then
    some ⟨seconds, fraction, h.1, h.2.1, h.2.2⟩
  else none

/-- The start of 1970. -/
def epoch : Instant where
  seconds := 0
  fraction := 0
  seconds_ge := by decide
  seconds_le := by decide
  fraction_lt := by decide

/-- The last instant, leap seconds aside. -/
def last : Instant where
  seconds := maxSeconds
  fraction := 999999999
  seconds_ge := by decide
  seconds_le := by decide
  fraction_lt := by decide

instance : Inhabited Instant := ⟨epoch⟩

/-- Nanoseconds since 1970-01-01T00:00:00Z. -/
def nanos (t : Instant) : Int :=
  t.seconds * 1000000000 + t.fraction

/-- The instant that many nanoseconds after the epoch, if there is one. -/
def ofNanos? (n : Int) : Option Instant :=
  ofParts? (n / 1000000000) (n % 1000000000).toNat

/-- Not later than. -/
def le (a b : Instant) : Prop :=
  a.seconds < b.seconds ∨ (a.seconds = b.seconds ∧ a.fraction ≤ b.fraction)

instance : LE Instant := ⟨le⟩

instance (a b : Instant) : Decidable (a ≤ b) :=
  inferInstanceAs (Decidable (_ ∨ _))

/-- The longest span that can be added to an instant, in nanoseconds: 2⁶³ - 1 milliseconds. -/
def longestSpan : Nat := 9223372036854775807000000

/-- The nanoseconds of a duration that can be added to an instant. -/
def span? (d : Duration) : Option Nat :=
  if d.nanos ≤ longestSpan then some d.nanos else none

/-- The instant a span after `t`, if the calendar goes that far; `t` is what a clock shows, and no
clock shows leap seconds. -/
def add? (t : Instant) (span : Nat) : Option Instant := ofNanos? (t.nanos + span)

/-- The instant `d` after `t`, or the last one.  A duration too long to be added counts as the
longest span. -/
def addSaturating (t : Instant) (d : Duration) : Instant :=
  (t.add? ((span? d).getD longestSpan)).getD last

/-- Whole days since the epoch. -/
def dayNumber (t : Instant) : Int := t.seconds / 86400

/-- Seconds past midnight. -/
def secondOfDay (t : Instant) : Nat := (t.seconds % 86400).toNat

/-- Nanoseconds from another instant to this one.  Of leap seconds only those exist that the two
instants are in, and their times of day say whether such a second has yet to be counted. -/
def since (t earlier : Instant) : Int :=
  let uncounted : Int :=
    if earlier.secondOfDay < t.secondOfDay ∧ 1000000000 ≤ earlier.fraction then 1
    else if t.secondOfDay < earlier.secondOfDay ∧ 1000000000 ≤ t.fraction then -1
    else 0
  (t.seconds - earlier.seconds + uncounted) * 1000000000 + (t.fraction - earlier.fraction)

/-- The time from `now` to `t`, where `t` lies ahead. -/
def until? (t now : Instant) : Option Duration :=
  if 0 < t.since now then Duration.ofNanos? (t.since now).toNat else none

/-- The date in UTC. -/
def date (t : Instant) : Date := Date.ofDayNumber t.dayNumber

theorem ext {a b : Instant} (hs : a.seconds = b.seconds) (hf : a.fraction = b.fraction) :
    a = b := by
  cases a
  cases b
  cases hs
  cases hf
  rfl

theorem ofParts?_parts (t : Instant) : ofParts? t.seconds t.fraction = some t := by
  rw [ofParts?, dif_pos ⟨t.seconds_ge, t.seconds_le, t.fraction_lt⟩]

end Instant

end JobNode
