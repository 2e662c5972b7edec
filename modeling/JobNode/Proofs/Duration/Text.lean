import JobNode.Proofs.Text.Blank
import JobNode.Proofs.Text.Decimal
import JobNode.Settings.Basic
import Mathlib.Algebra.Group.Nat.Defs

/-!
# Which texts are durations

A duration is written as digits and the symbol of a unit, with nothing between them and nothing but
white space around them.

* `TimeUnit.nanos_times`: what so many units come to, whatever number a 64-bit word holds.
* `parse_eq_ok_iff`: a text is read as a duration just if it spells it.
* `durations_spelled`: what becomes of every text.
-/

namespace JobNode.Duration

namespace TimeUnit

/-- How a unit is written. -/
def symbol : TimeUnit → List Char
  | milliseconds => ['m', 's']
  | seconds => ['s']
  | minutes => ['m']
  | hours => ['h']

/-- The nanoseconds of `n` units: minutes and hours come to at most the seconds that a 64-bit word
holds. -/
def nanos (unit : TimeUnit) (n : Nat) : Nat :=
  match unit with
  | milliseconds => n * 1000000
  | seconds => n * 1000000000
  | minutes => Nat.min (60 * n) (2 ^ 64 - 1) * 1000000000
  | hours => Nat.min (3600 * n) (2 ^ 64 - 1) * 1000000000

theorem ofSymbol?_eq_some_iff {cs : List Char} {unit : TimeUnit} :
    ofSymbol? cs = some unit ↔ cs = unit.symbol := by
  constructor
  · intro read
    unfold ofSymbol? at read
    split at read <;> cases read <;> rfl
  · rintro rfl
    cases unit <;> rfl

/-- No number that a 64-bit word holds is too large for a duration. -/
theorem nanos_times (unit : TimeUnit) {n : Nat} (fits : n < 2 ^ 64) :
    (unit.times n).nanos = unit.nanos n := by
  have secs {k : Nat} (fits : k ≤ maxWord) : (ofSecs k).nanos = k * 1000000000 := by
    refine Nat.min_eq_left ?_
    simp only [maxWord, maxNanos, nanosPerSecond] at *
    omega
  have most : (2 ^ 64 - 1 : Nat) = maxWord := rfl
  cases unit with
  | milliseconds =>
    refine Nat.min_eq_left ?_
    simp only [maxNanos]
    omega
  | seconds => exact secs (Nat.le_of_lt_succ fits)
  | minutes =>
    rw [times, secs (Nat.min_le_right _ _), nanos, Nat.mul_comm n, most]
  | hours =>
    rw [times, secs (Nat.min_le_right _ _), nanos, Nat.mul_comm n, most]

theorem stops_symbol (unit : TimeUnit) : Decimal.Stops unit.symbol := by
  cases unit <;> exact Decimal.stops_cons rfl _

end TimeUnit

/-- The text spells the duration: digits of a number below 2⁶⁴, right before the symbol of a unit,
and white space on both sides. -/
def Spells (s : String) (d : Duration) : Prop :=
  ∃ before digits unit after,
    s.toList = before ++ (digits ++ TimeUnit.symbol unit) ++ after ∧
    before.all Text.isBlank = true ∧ after.all Text.isBlank = true ∧
    digits ≠ [] ∧ digits.all Decimal.isDigit = true ∧
    Decimal.ofDigits digits < 2 ^ 64 ∧ d.nanos = unit.nanos (Decimal.ofDigits digits)

variable {s : String} {d : Duration}

/-- White space around digits and a unit is all that is taken away. -/
theorem trimChars_spelled {before digits after : List Char} (unit : TimeUnit)
    (blank : before.all Text.isBlank = true) (blank' : after.all Text.isBlank = true)
    (some : digits ≠ []) (digital : digits.all Decimal.isDigit = true) :
    Text.trimChars (before ++ (digits ++ unit.symbol) ++ after) = digits ++ unit.symbol := by
  rw [Text.trimChars_padded blank blank']
  refine Text.trimChars_of_solid ?_ ?_
  · intro c head
    cases digits with
    | nil => exact absurd rfl some
    | cons first rest =>
      cases head
      rw [List.all_cons, Bool.and_eq_true] at digital
      exact Text.isBlank_of_isDigit digital.1
  · rw [List.reverse_append]
    intro c head
    cases unit <;> · cases head; rfl

theorem parse_of_spells (spells : Spells s d) : parse s = .ok d := by
  obtain ⟨before, digits, unit, after, text, blank, blank', some, digital, fits, nanos⟩ := spells
  have trimmed := trimChars_spelled unit blank blank' some digital
  have amount := Decimal.takeWhile_of_stops digital unit.stops_symbol
  have left := Decimal.dropWhile_of_stops digital unit.stops_symbol
  have accepted : ¬ (digits = [] ∨ maxWord < Decimal.ofDigits digits) := by
    rintro (none | large)
    · exact some none
    · exact absurd large (Nat.not_lt.2 (Nat.le_of_lt_succ fits))
  have value : unit.times (Decimal.ofDigits digits) = d :=
    Duration.ext ((unit.nanos_times fits).trans nanos.symm)
  simp only [parse, text, trimmed, amount, left, if_neg accepted,
    TimeUnit.ofSymbol?_eq_some_iff.2 rfl, value]

theorem spells_of_parse (read : parse s = .ok d) : Spells s d := by
  obtain ⟨before, after, blank, blank', text⟩ := Text.exists_trimChars s.toList
  have parts :=
    List.takeWhile_append_dropWhile (p := Decimal.isDigit) (l := Text.trimChars s.toList)
  unfold parse at read
  dsimp only at read
  split at read
  · cases read
  next accepted =>
    obtain ⟨some, fits⟩ := not_or.1 accepted
    have small : Decimal.ofDigits _ < 2 ^ 64 := Nat.lt_succ_of_le (Nat.not_lt.1 fits)
    split at read
    next unit symbol =>
      cases read
      refine ⟨before, _, unit, after, ?_, blank, blank', some, List.all_takeWhile, small,
        unit.nanos_times small⟩
      rw [← TimeUnit.ofSymbol?_eq_some_iff.1 symbol, parts]
      exact text
    · cases read

theorem parse_eq_ok_iff : parse s = .ok d ↔ Spells s d :=
  ⟨spells_of_parse, parse_of_spells⟩

/-- **Every text is a duration or an error.**  A text is read as a duration just if it spells it;
the value is exact, but for minutes and hours that come to more seconds than a 64-bit word holds.
Every other text is refused as not valid. -/
theorem durations_spelled (s : String) :
    (∀ d, parse s = .ok d ↔ Spells s d) ∧
    ((∃ d, Spells s d) ∨
      ∃ e, parse s = .error e ∧
        (SettingsError.badDuration e).toError = .validation e.message ∧
        (e = .badAmount (Text.trim s) ∨ e = .badUnit (Text.trim s))) := by
  refine ⟨fun d => parse_eq_ok_iff, ?_⟩
  cases read : parse s with
  | ok d => exact .inl ⟨d, parse_eq_ok_iff.1 read⟩
  | error e =>
    refine .inr ⟨e, rfl, rfl, ?_⟩
    unfold parse at read
    dsimp only at read
    split at read
    · cases read
      exact .inl rfl
    · split at read
      · cases read
      · cases read
        exact .inr rfl

example : (parse " 02h\n").toOption = some (.ofSecs 7200) := by decide +kernel

end JobNode.Duration
