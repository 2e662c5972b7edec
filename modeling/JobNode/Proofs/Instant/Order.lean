import JobNode.Proofs.Instant.Text

/-!
# Instants in the order of their text

Where years have four digits, every part of the text of an instant has a fixed width and stands
before the parts that count for less, so texts are in order as the instants that they show.
Instants cut to microseconds have the order of the texts that are cut to microseconds.

* `Decimal.fixed_append_lt`: numbers of one width at the front of two texts;
* `Date.dayNumber_lt_iff`: dates are in order as their day numbers are;
* `Instant.toMicrosText_le_iff`: texts are in order as regular instants are, cut to microseconds.
-/

namespace JobNode

/-! ## Digits -/

namespace Decimal

theorem digit_lt_digit {m n : Nat} (hm : m < 10) (hn : n < 10) : digit m < digit n ↔ m < n := by
  have left : (digit m).toNat = 48 + m := digit_toNat hm
  have right : (digit n).toNat = 48 + n := digit_toNat hn
  have order : digit m < digit n ↔ (digit m).toNat < (digit n).toNat := Iff.rfl
  rw [order]
  omega

theorem digit_inj {m n : Nat} (hm : m < 10) (hn : n < 10) : digit m = digit n ↔ m = n := by
  refine ⟨fun same => ?_, congrArg digit⟩
  rw [← digitValue_digit hm, same, digitValue_digit hn]

/-- Texts that begin with numbers of one width are in the order of the numbers, or of what follows
equal numbers. -/
theorem fixed_append_lt {width m n : Nat} (hm : m < Nat.pow 10 width) (hn : n < Nat.pow 10 width)
    {xs ys : List Char} :
    fixed width m ++ xs < fixed width n ++ ys ↔ m < n ∨ m = n ∧ xs < ys := by
  induction width generalizing m n xs ys with
  | zero =>
    have zero : Nat.pow 10 0 = 1 := rfl
    have same : m = n := by omega
    simp [fixed, same]
  | succ width ih =>
    have power : Nat.pow 10 (width + 1) = Nat.pow 10 width * 10 := rfl
    have last : digit (m % 10) < digit (n % 10) ↔ m % 10 < n % 10 :=
      digit_lt_digit (by omega) (by omega)
    have equal : digit (m % 10) = digit (n % 10) ↔ m % 10 = n % 10 :=
      digit_inj (by omega) (by omega)
    rw [fixed, fixed, List.append_assoc, List.append_assoc, ih (by omega) (by omega),
      List.singleton_append, List.singleton_append, List.cons_lt_cons_iff, last, equal]
    constructor
    · rintro (front | ⟨front, back | ⟨back, rest⟩⟩)
      · exact .inl (by omega)
      · exact .inl (by omega)
      · exact .inr ⟨by omega, rest⟩
    · rintro (less | ⟨rfl, rest⟩)
      · by_cases front : m / 10 = n / 10
        · exact .inr ⟨front, .inl (by omega)⟩
        · exact .inl (by omega)
      · exact .inr ⟨rfl, .inr ⟨rfl, rest⟩⟩

end Decimal

/-! ## Dates -/

namespace Date

variable {d e : Date}

/-- The date comes before another one. -/
def Before (d e : Date) : Prop :=
  d.year < e.year ∨ d.year = e.year ∧ (d.month < e.month ∨ d.month = e.month ∧ d.day < e.day)

/-- The year of a date, where years begin in March. -/
def marchYear (d : Date) : Int := if d.month ≤ 2 then d.year - 1 else d.year

/-- The month of a date, counted from March. -/
def marchMonth (d : Date) : Int := if d.month ≤ 2 then d.month + 9 else d.month - 3

/-- The days of a year that begins in March before one of its months. -/
def monthStart (month : Int) : Int := (153 * month + 2) / 5

/-- The days before a year that begins in March, counted from year zero. -/
def yearStart (year : Int) : Int := 365 * year + year / 4 - year / 100 + year / 400

theorem dayNumber_eq (d : Date) :
    d.dayNumber = yearStart d.marchYear + (monthStart d.marchMonth + d.day - 1) - epochOffset := by
  unfold dayNumber yearStart monthStart marchMonth marchYear
  simp only [daysPerEra]
  generalize (if d.month ≤ 2 then d.year - 1 else d.year) = year
  omega

/-- Months do not run into each other, and only a leap year has a 29 February. -/
theorem day_bounds (valid : d.Valid) :
    0 ≤ d.marchMonth ∧ d.marchMonth ≤ 11 ∧
      (d.marchMonth ≤ 10 → monthStart d.marchMonth + d.day ≤ monthStart (d.marchMonth + 1)) ∧
      (d.marchMonth = 11 → d.marchYear = d.year - 1 ∧ d.day ≤ 28 + (isLeapYear d.year).toNat) := by
  obtain ⟨year, month, day⟩ := d
  have ⟨january, december⟩ := month_of_valid valid
  obtain ⟨-, last⟩ := valid
  simp only at january december last
  have months : month = 1 ∨ month = 2 ∨ month = 3 ∨ month = 4 ∨ month = 5 ∨ month = 6 ∨ month = 7 ∨
    month = 8 ∨ month = 9 ∨ month = 10 ∨ month = 11 ∨ month = 12 := by omega
  unfold marchMonth marchYear monthStart
  rcases months with rfl | rfl | rfl | rfl | rfl | rfl | rfl | rfl | rfl | rfl | rfl | rfl
  case inr.inl =>
    rw [daysInMonth] at last
    cases leap : isLeapYear year <;> simp [leap] at last ⊢ <;> omega
  all_goals
    simp [daysInMonth] at last ⊢
    omega

theorem yearStart_le {y z : Int} (less : y < z) : yearStart (y + 1) ≤ yearStart z := by
  have fourths : (y + 1) / 4 ≤ z / 4 := by omega
  unfold yearStart
  omega

/-- The last day of a year that begins in March lies before the next one. -/
theorem yearStart_succ (valid : d.Valid) :
    yearStart d.marchYear + (monthStart d.marchMonth + d.day) ≤ yearStart (d.marchYear + 1) := by
  obtain ⟨first, last, within, february⟩ := day_bounds valid
  by_cases early : d.marchMonth ≤ 10
  · have fits := within early
    unfold monthStart at fits ⊢
    unfold yearStart
    omega
  · have latest : d.marchMonth = 11 := by omega
    obtain ⟨year, days⟩ := february latest
    rw [year, latest, Int.sub_add_cancel]
    have leap : (isLeapYear d.year).toNat = 1 →
        d.year % 4 = 0 ∧ (d.year % 100 ≠ 0 ∨ d.year % 400 = 0) := by
      simp [isLeapYear]
    have few : (isLeapYear d.year).toNat ≤ 1 := Bool.toNat_le _
    unfold monthStart yearStart
    omega

theorem dayNumber_lt (valid : d.Valid) (other : e.Valid) (before : d.Before e) :
    d.dayNumber < e.dayNumber := by
  obtain ⟨first, last, within, -⟩ := day_bounds valid
  obtain ⟨first', last', -⟩ := day_bounds other
  have one := other.1
  have ends := yearStart_succ valid
  rw [dayNumber_eq, dayNumber_eq]
  by_cases years : d.marchYear < e.marchYear
  · have later := yearStart_le years
    have nonneg : 0 ≤ monthStart e.marchMonth := by unfold monthStart; omega
    omega
  · -- years that begin in March differ less, so the months decide
    have order : d.marchYear = e.marchYear ∧
        (d.marchMonth < e.marchMonth ∨ d.marchMonth = e.marchMonth ∧ d.day < e.day) := by
      have ⟨january, december⟩ := month_of_valid valid
      have ⟨january', december'⟩ := month_of_valid other
      unfold Before at before
      unfold marchYear marchMonth at *
      split at years <;> split at years <;> simp [*] <;> omega
    obtain ⟨same, months | ⟨month, days⟩⟩ := order
    · have fits := within (by omega)
      have starts : monthStart (d.marchMonth + 1) ≤ monthStart e.marchMonth := by
        unfold monthStart
        omega
      rw [same]
      omega
    · rw [same, month]
      omega

/-- Dates are in order as their day numbers are. -/
theorem dayNumber_lt_iff (valid : d.Valid) (other : e.Valid) :
    d.dayNumber < e.dayNumber ↔ d.Before e := by
  refine ⟨fun less => ?_, dayNumber_lt valid other⟩
  have order : d.Before e ∨ d = e ∨ e.Before d := by
    obtain ⟨year, month, day⟩ := d
    obtain ⟨year', month', day'⟩ := e
    simp only [Before, mk.injEq]
    omega
  rcases order with before | rfl | after
  · exact before
  · exact absurd less (Int.lt_irrefl _)
  · have := dayNumber_lt other valid after
    omega

end Date

/-! ## Instants -/

namespace Instant

variable {a b : Instant}

theorem le_trans {c : Instant} (first : a ≤ b) (second : b ≤ c) : a ≤ c := by
  have : a.le b := first
  have : b.le c := second
  change a.le c
  unfold le at *
  omega

theorem le_refl (t : Instant) : t ≤ t := .inr ⟨rfl, Nat.le_refl _⟩

theorem le_total (a b : Instant) : a ≤ b ∨ b ≤ a := by
  change a.le b ∨ b.le a
  unfold le
  omega

theorem le_antisymm (first : a ≤ b) (second : b ≤ a) : a = b := by
  have first : a.le b := first
  have second : b.le a := second
  unfold le at first second
  exact ext (by omega) (by omega)

/-- The instant cut to microseconds. -/
def toMicros (t : Instant) : Instant where
  seconds := t.seconds
  fraction := t.fraction / 1000 * 1000
  seconds_ge := t.seconds_ge
  seconds_le := t.seconds_le
  fraction_lt := by
    have := t.fraction_lt
    omega

/-- The year is written with four digits. -/
def FourDigits (t : Instant) : Prop := 0 ≤ t.date.year ∧ t.date.year ≤ 9999

instance (t : Instant) : Decidable t.FourDigits := inferInstanceAs (Decidable (_ ∧ _))

/-- The second of the minute as it is written: 60 in a leap second. -/
def writtenSecond (t : Instant) : Nat :=
  if 1000000000 ≤ t.fraction then t.secondOfDay % 60 + 1 else t.secondOfDay % 60

theorem toMicrosText_eq (ha : a.FourDigits) :
    a.toMicrosText.toList =
      Decimal.fixed 4 a.date.year.toNat ++ '-' :: (Decimal.fixed 2 a.date.month ++ '-' ::
        (Decimal.fixed 2 a.date.day ++ 'T' :: (Decimal.fixed 2 (a.secondOfDay / 3600) ++ ':' ::
          (Decimal.fixed 2 (a.secondOfDay / 60 % 60) ++ ':' :: (Decimal.fixed 2 a.writtenSecond ++
            '.' :: (Decimal.fixed 6 (a.fraction % 1000000000 / 1000) ++ ['Z'])))))) := by
  have year : yearChars a.date.year = Decimal.fixed 4 a.date.year.toNat := if_pos ha
  simp only [toMicrosText, secondChars, year, String.toList_ofList, List.append_assoc,
    List.cons_append, writtenSecond]

theorem secondOfDay_lt (t : Instant) : t.secondOfDay < 86400 := by
  unfold secondOfDay
  omega

theorem writtenSecond_le (t : Instant) : t.writtenSecond ≤ 60 := by
  unfold writtenSecond
  split <;> omega

/-- The parts of two texts are compared from left to right. -/
theorem toMicrosText_lt (ha : a.FourDigits) (hb : b.FourDigits) :
    a.toMicrosText < b.toMicrosText ↔ a.date.Before b.date ∨ a.date = b.date ∧
      (a.secondOfDay / 60 < b.secondOfDay / 60 ∨ a.secondOfDay / 60 = b.secondOfDay / 60 ∧
        (a.writtenSecond < b.writtenSecond ∨ a.writtenSecond = b.writtenSecond ∧
          a.fraction % 1000000000 / 1000 < b.fraction % 1000000000 / 1000)) := by
  change a.toMicrosText.toList < b.toMicrosText.toList ↔ _
  have two : Nat.pow 10 2 = 100 := rfl
  have four : Nat.pow 10 4 = 10000 := rfl
  have six : Nat.pow 10 6 = 1000000 := rfl
  have day (t : Instant) : t.date.month ≤ 12 ∧ t.date.day ≤ 31 :=
    have valid : t.date.Valid := Date.valid_ofDayNumber _
    ⟨(Date.month_of_valid valid).2, Nat.le_trans valid.2 (Date.daysInMonth_le _ _)⟩
  have dates := And.intro (day a) (day b)
  have times := And.intro (secondOfDay_lt a) (secondOfDay_lt b)
  have seconds := And.intro (writtenSecond_le a) (writtenSecond_le b)
  rw [toMicrosText_eq ha, toMicrosText_eq hb]
  unfold FourDigits at ha hb
  rw [Decimal.fixed_append_lt (by omega) (by omega), List.cons_lt_cons_self,
    Decimal.fixed_append_lt (by omega) (by omega), List.cons_lt_cons_self,
    Decimal.fixed_append_lt (by omega) (by omega), List.cons_lt_cons_self,
    Decimal.fixed_append_lt (by omega) (by omega), List.cons_lt_cons_self,
    Decimal.fixed_append_lt (by omega) (by omega), List.cons_lt_cons_self,
    Decimal.fixed_append_lt (by omega) (by omega), List.cons_lt_cons_self,
    Decimal.fixed_append_lt (by omega) (by omega)]
  simp only [List.lt_irrefl, and_false, or_false]
  generalize a.fraction % 1000000000 / 1000 = micros, b.fraction % 1000000000 / 1000 = micros'
  generalize a.date = d at *
  generalize b.date = e at *
  obtain ⟨year, month, day⟩ := d
  obtain ⟨year', month', day'⟩ := e
  simp only [Date.Before, Date.mk.injEq] at *
  omega

section Regular

variable (leapA : a.Regular) (leapB : b.Regular)
include leapA leapB

/-- Texts are in order as the instants are, cut to microseconds. -/
theorem toMicrosText_le_iff (ha : a.FourDigits) (hb : b.FourDigits) :
    a.toMicrosText ≤ b.toMicrosText ↔ a.toMicros ≤ b.toMicros := by
  change ¬ b.toMicrosText < a.toMicrosText ↔ a.toMicros.le b.toMicros
  have days (t : Instant) : t.date.dayNumber = t.seconds / 86400 := Date.dayNumber_ofDayNumber _
  have valid (t : Instant) : t.date.Valid := Date.valid_ofDayNumber _
  have dates : a.date = b.date ↔ a.seconds / 86400 = b.seconds / 86400 :=
    ⟨fun same => by rw [← days, same, days], congrArg Date.ofDayNumber⟩
  unfold Regular at leapA leapB
  have wholeA := a.fraction_lt
  have wholeB := b.fraction_lt
  rw [toMicrosText_lt hb ha, ← Date.dayNumber_lt_iff (valid b) (valid a), days, days, eq_comm, dates]
  simp only [le, toMicros, writtenSecond, secondOfDay]
  -- a leap second is written as second 60, after the second it is a part of
  split <;> split <;> omega

theorem toMicrosText_eq_iff (ha : a.FourDigits) (hb : b.FourDigits) :
    a.toMicrosText = b.toMicrosText ↔ a.toMicros = b.toMicros := by
  constructor
  · intro same
    have ahead : a.toMicrosText ≤ b.toMicrosText := by simp only [same, String.le_refl]
    have back : b.toMicrosText ≤ a.toMicrosText := by simp only [same, String.le_refl]
    exact le_antisymm ((toMicrosText_le_iff leapA leapB ha hb).1 ahead)
      ((toMicrosText_le_iff leapB leapA hb ha).1 back)
  · intro same
    have ahead : a.toMicros ≤ b.toMicros := by simp only [same, Instant.le_refl]
    have back : b.toMicros ≤ a.toMicros := by simp only [same, Instant.le_refl]
    exact String.le_antisymm ((toMicrosText_le_iff leapA leapB ha hb).2 ahead)
      ((toMicrosText_le_iff leapB leapA hb ha).2 back)

end Regular

/-- The text of a year of more than four digits begins with a sign, and signs come before digits. -/
theorem toMicrosText_lt_of_late (late : 9999 < a.date.year) (hb : b.FourDigits) :
    a.toMicrosText < b.toMicrosText := by
  have beyond : ¬ (0 ≤ a.date.year ∧ a.date.year ≤ 9999) := by omega
  have positive : ¬ a.date.year < 0 := by omega
  change a.toMicrosText.toList < b.toMicrosText.toList
  have sign : ∃ rest, a.toMicrosText.toList = '+' :: rest := by
    simp [toMicrosText, secondChars, yearChars, beyond, positive]
  have digits := Decimal.all_isDigit_fixed 4 b.date.year.toNat
  obtain ⟨rest, begins⟩ := sign
  obtain ⟨c, cs, four⟩ : ∃ c cs, Decimal.fixed 4 b.date.year.toNat = c :: cs := ⟨_, _, rfl⟩
  rw [four, List.all_cons, Bool.and_eq_true] at digits
  rw [begins, toMicrosText_eq hb, four, List.cons_append, List.cons_lt_cons_iff]
  refine .inl ?_
  have digit := digits.1
  simp only [Decimal.isDigit, Bool.and_eq_true, decide_eq_true_eq] at digit
  change ('+' : Char).toNat < c.toNat
  have plus : ('+' : Char).toNat = 43 := rfl
  omega

/-- What is earlier to the microsecond is earlier. -/
theorem le_of_not_toMicros_le (less : ¬ b.toMicros ≤ a.toMicros) : a ≤ b := by
  change ¬ b.toMicros.le a.toMicros at less
  change a.le b
  simp only [le, toMicros] at *
  omega

end Instant

end JobNode
