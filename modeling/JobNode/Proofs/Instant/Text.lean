import JobNode.Instant.Text
import JobNode.Proofs.Instant.Calendar
import JobNode.Proofs.Text.Decimal

/-!
# Instants read back

The text of an instant at full precision is read back in all its forms: years of more than four
digits with their sign, fractions of any number of groups, and the second 60 of a leap second.  What
it is read as is the instant itself, unless this has the fraction of a leap second within a minute:
its text shows the second after it, which is an ordinary one.

* `Regular`, `written`: the instants that have texts of their own, and the one that a text shows.
* `parse_toText`: the text of an instant is read as the instant it shows.
* `written_eq_self_iff`: this is the instant itself just if it is regular.
-/

namespace JobNode.Instant

open Decimal

/-! ## Numbers -/

/-- A number is read up to its width, or up to what is no digit. -/
theorem readNumber_append {most : Nat} {ds rest : List Char} (some : ds ≠ [])
    (digits : ds.all isDigit = true) (fits : ds.length ≤ most)
    (ends : ds.length = most ∨ Stops rest) (small : ofDigits ds ≤ maxNumeral) :
    readNumber most (ds ++ rest) = .ok (ofDigits ds, rest) := by
  have taken : ((ds ++ rest).take most).takeWhile isDigit = ds := by
    rw [List.take_append, List.take_of_length_le fits]
    refine takeWhile_of_stops digits fun c head => ?_
    rcases ends with width | stops
    · simp [width] at head
    · refine stops c ?_
      rw [List.head?_take] at head
      split at head
      · cases head
      · exact head
  cases ds with
  | nil => exact absurd rfl some
  | cons d ds =>
    rw [List.cons_append] at taken ⊢
    rw [readNumber, taken]
    simp [Nat.not_lt.2 small]

theorem readNumber_fixed {most width n : Nat} {rest : List Char} (pos : 0 < width)
    (fits : n < Nat.pow 10 width) (within : width ≤ most) (ends : width = most ∨ Stops rest)
    (small : n ≤ maxNumeral) : readNumber most (fixed width n ++ rest) = .ok (n, rest) := by
  have value : ofDigits (fixed width n) = n := by rw [ofDigits_fixed, Nat.mod_eq_of_lt fits]
  have length := length_fixed width n
  rw [readNumber_append (fixed_ne_nil pos n) (all_isDigit_fixed width n) (by rw [length]; exact within)
    (by rw [length]; exact ends) (by rw [value]; exact small), value]

/-- A number after a sign has as many digits as it likes. -/
theorem readNumber_padded {n : Nat} (small : n ≤ maxNumeral) {rest : List Char}
    (stops : Stops rest) :
    readNumber (padded 4 n ++ rest).length (padded 4 n ++ rest) = .ok (n, rest) := by
  rw [readNumber_append (padded_ne_nil 4 n) (all_isDigit_padded 4 n) (by simp) (.inr stops)
    (by rw [ofDigits_padded]; exact small), ofDigits_padded]

/-! ## Parts -/

theorem trimLeft_fixed (width n : Nat) (rest : List Char) :
    Text.trimLeft (fixed (width + 1) n ++ rest) = fixed (width + 1) n ++ rest :=
  Text.trimLeft_digits (fixed_ne_nil (Nat.succ_pos width) n) (all_isDigit_fixed _ n) rest

theorem readPart_fixed {low high n : Nat} (least : low ≤ n) (most : n ≤ high) (fits : high < 100)
    (rest : List Char) : readPart 2 low high (fixed 2 n ++ rest) = .ok (n, rest) := by
  have two : n < Nat.pow 10 2 := Nat.lt_of_le_of_lt most fits
  have small : n ≤ maxNumeral := by unfold maxNumeral; omega
  have within : ¬ (n < low ∨ high < n) := by omega
  rw [readPart, trimLeft_fixed,
    readNumber_fixed (by decide) two (Nat.le_refl 2) (.inl rfl) small]
  simp [bind, Except.bind, within]

theorem readMark_cons {mark : Char} (solid : Text.isBlank mark = false) (rest : List Char) :
    readMark mark (mark :: rest) = .ok (Text.trimLeft rest) := by
  rw [readMark, Text.trimLeft_cons_of_not_blank solid]
  simp

/-- A year is read back, with its sign if it has one. -/
theorem readYear_yearChars {year : Int} (low : -2147483648 ≤ year) (high : year ≤ 2147483647)
    {rest : List Char} (stops : Stops rest) : readYear (yearChars year ++ rest) = .ok (year, rest) := by
  have bounds : yearInBounds year = true := by simp [yearInBounds, low, high]
  have small : year.natAbs ≤ maxNumeral := by unfold maxNumeral; omega
  have signed := readNumber_padded small stops
  unfold yearChars
  split
  next plain =>
    have value : (year.toNat : Int) = year := by omega
    have four : year.toNat < Nat.pow 10 4 := by
      have : Nat.pow 10 4 = 10000 := rfl
      omega
    have read : readNumber 4 (fixed 4 year.toNat ++ rest) = .ok (year.toNat, rest) :=
      readNumber_fixed (by decide) four (Nat.le_refl 4) (.inl rfl) (by unfold maxNumeral; omega)
    rw [readYear, trimLeft_fixed]
    obtain ⟨d, ds, eq⟩ : ∃ d ds, fixed 4 year.toNat = d :: ds := ⟨_, _, rfl⟩
    have digit : isDigit d = true := by
      have all := all_isDigit_fixed 4 year.toNat
      rw [eq, List.all_cons, Bool.and_eq_true] at all
      exact all.1
    have minus : d ≠ '-' := ne_of_isDigit digit (by decide)
    have plus : d ≠ '+' := ne_of_isDigit digit (by decide)
    rw [eq, List.cons_append] at read ⊢
    simp [bind, Except.bind, read, minus, plus, value, bounds]
  next beyond =>
    rw [List.cons_append]
    split
    next negative =>
      have value : -(year.natAbs : Int) = year := by omega
      rw [readYear, Text.trimLeft_cons_of_not_blank (by decide)]
      simp only [bind, Except.bind, signed, value, bounds, if_true]
    next positive =>
      have value : (year.natAbs : Int) = year := by omega
      rw [readYear, Text.trimLeft_cons_of_not_blank (by decide)]
      simp only [bind, Except.bind, signed, value, bounds, if_true]

theorem readFraction_fixed {width n : Nat} (pos : 0 < width) (within : width ≤ 9)
    (fits : n < Nat.pow 10 width) {rest : List Char} (stops : Stops rest) :
    readFraction ('.' :: fixed width n ++ rest) = .ok (n * Nat.pow 10 (9 - width), rest) := by
  have small : n ≤ maxNumeral := by
    have : Nat.pow 10 width ≤ Nat.pow 10 9 := Nat.pow_le_pow_right (by decide) within
    have : Nat.pow 10 9 = 1000000000 := rfl
    unfold maxNumeral
    omega
  have digits := all_isDigit_fixed width n
  have read := readNumber_fixed pos fits within (.inr stops) small
  have kept : Nat.min 9 width = width := Nat.min_eq_right within
  have left : ([] ++ rest).dropWhile isDigit = rest := dropWhile_of_stops rfl stops
  rw [List.nil_append] at left
  rw [List.cons_append, readFraction, read]
  simp only [bind, Except.bind, takeWhile_of_stops digits stops, left, length_fixed, kept]

/-- A fraction is read back, however many digits it took. -/
theorem readFraction_fractionChars {n : Nat} (small : n < 1000000000) {rest : List Char}
    (stops : Stops rest) (other : rest.head? ≠ some '.') :
    readFraction (fractionChars n ++ rest) = .ok (n, rest) := by
  unfold fractionChars
  split
  next zero =>
    subst zero
    unfold readFraction
    split
    next eq =>
      rw [List.nil_append] at eq
      exact absurd (congrArg List.head? eq) other
    next => rfl
  next some =>
    split
    next millis =>
      have value : n / 1000000 * Nat.pow 10 (9 - 3) = n :=
        Nat.div_mul_cancel (Nat.dvd_of_mod_eq_zero millis)
      have fits : n / 1000000 < Nat.pow 10 3 := by
        have : Nat.pow 10 3 = 1000 := rfl
        omega
      rw [readFraction_fixed (by decide) (by decide) fits stops, value]
    next =>
      split
      next micros =>
        have value : n / 1000 * Nat.pow 10 (9 - 6) = n :=
          Nat.div_mul_cancel (Nat.dvd_of_mod_eq_zero micros)
        have fits : n / 1000 < Nat.pow 10 6 := by
          have : Nat.pow 10 6 = 1000000 := rfl
          omega
        rw [readFraction_fixed (by decide) (by decide) fits stops, value]
      next nanos =>
        rw [readFraction_fixed (by decide) (by decide) small stops]
        simp

/-! ## Instants -/

theorem year_date (t : Instant) : -262143 ≤ t.date.year ∧ t.date.year ≤ 262142 := by
  have low := t.seconds_ge
  have high := t.seconds_le
  unfold minSeconds at low
  unfold maxSeconds at high
  have days : t.date.dayNumber = t.seconds / 86400 := Date.dayNumber_ofDayNumber _
  exact Date.year_of_dayNumber (Date.valid_ofDayNumber _) (by omega) (by omega)

/-- A fraction of more than a second is on the last second of a minute only. -/
def Regular (t : Instant) : Prop := 1000000000 ≤ t.fraction → t.seconds % 60 = 59

instance (t : Instant) : Decidable t.Regular := inferInstanceAs (Decidable (_ → _))

/-- The instant that the text of `t` shows: within a minute, a fraction of more than a second shows
as a part of the second that follows. -/
def written (t : Instant) : Instant :=
  if h : 1000000000 ≤ t.fraction ∧ t.seconds % 60 ≠ 59 then
    { seconds := t.seconds + 1
      fraction := t.fraction - 1000000000
      seconds_ge := Int.le_add_one t.seconds_ge
      seconds_le := by
        -- the last second of all is the last one of its minute
        have last := t.seconds_le
        unfold maxSeconds at last ⊢
        omega
      fraction_lt := Nat.lt_of_le_of_lt (Nat.sub_le _ _) t.fraction_lt }
  else t

theorem written_of_regular {t : Instant} (regular : t.Regular) : t.written = t :=
  dif_neg fun within => within.2 (regular within.1)

theorem written_of_not_regular {t : Instant} (irregular : ¬ t.Regular) :
    1000000000 ≤ t.fraction ∧ t.seconds % 60 ≠ 59 ∧ t.written.seconds = t.seconds + 1 ∧
      t.written.fraction = t.fraction - 1000000000 := by
  have within : 1000000000 ≤ t.fraction ∧ t.seconds % 60 ≠ 59 := Classical.not_imp.1 irregular
  rw [written, dif_pos within]
  exact ⟨within.1, within.2, rfl, rfl⟩

theorem regular_written (t : Instant) : t.written.Regular := by
  by_cases regular : t.Regular
  · rw [written_of_regular regular]
    exact regular
  · obtain ⟨-, -, -, fraction⟩ := written_of_not_regular regular
    have fits := t.fraction_lt
    exact fun long => by omega

theorem written_eq_self_iff {t : Instant} : t.written = t ↔ t.Regular :=
  ⟨fun same => same ▸ t.regular_written, written_of_regular⟩

/-- The last second of the minutes that have a leap second is read as second 60. -/
theorem ofCivil_date (t : Instant) :
    ofCivil t.date (t.secondOfDay / 3600) (t.secondOfDay / 60 % 60)
      (if 1000000000 ≤ t.fraction then t.secondOfDay % 60 + 1 else t.secondOfDay % 60)
      (t.fraction % 1000000000) 0 = .ok t.written := by
  have fits := t.fraction_lt
  have whole : (t.secondOfDay : Int) = t.seconds % 86400 := by
    unfold secondOfDay
    omega
  have days : t.date.dayNumber = t.seconds / 86400 := Date.dayNumber_ofDayNumber _
  have valid : t.date.Valid := Date.valid_ofDayNumber _
  have years : yearHasDates t.date.year = true := by
    have ⟨first, last⟩ := year_date t
    simp [yearHasDates, first, last]
  unfold ofCivil
  rw [if_neg (by simp [years, valid]), if_neg (by decide)]
  generalize t.secondOfDay = second at *
  have parts := ofParts?_parts t.written
  by_cases regular : t.Regular
  · rw [written_of_regular regular] at parts ⊢
    by_cases inside : 1000000000 ≤ t.fraction
    · have last : second % 60 = 59 := by
        have := regular inside
        omega
      have seconds : t.date.dayNumber * 86400 + (second / 3600 : Nat) * 3600 +
          (second / 60 % 60 : Nat) * 60 + (59 : Nat) - 0 = t.seconds := by omega
      have fraction : t.fraction % 1000000000 + 1000000000 = t.fraction := by omega
      simp only [inside, last, if_true, fraction]
      rw [seconds, parts]
    · have plain : ¬ second % 60 = 60 := by omega
      have seconds : t.date.dayNumber * 86400 + (second / 3600 : Nat) * 3600 +
          (second / 60 % 60 : Nat) * 60 + (second % 60 : Nat) - 0 = t.seconds := by omega
      have fraction : t.fraction % 1000000000 = t.fraction := by omega
      simp only [inside, plain, if_false, fraction]
      rw [seconds, parts]
  · obtain ⟨inside, within, next, rest⟩ := written_of_not_regular regular
    have plain : ¬ second % 60 + 1 = 60 := by omega
    have seconds : t.date.dayNumber * 86400 + (second / 3600 : Nat) * 3600 +
        (second / 60 % 60 : Nat) * 60 + (second % 60 + 1 : Nat) - 0 = t.written.seconds := by omega
    have fraction : t.fraction % 1000000000 = t.written.fraction := by omega
    simp only [inside, plain, if_true, if_false, fraction]
    rw [seconds, parts]

/-- The offset that is written is none. -/
theorem readOffset_zulu : readOffset ['Z'] = .ok (0, []) := rfl

theorem readSeparator_mark (rest : List Char) : readSeparator ('T' :: rest) = .ok rest := rfl

theorem parseChars_toChars (t : Instant) : parseChars t.toChars = .ok t.written := by
  have valid : t.date.Valid := Date.valid_ofDayNumber _
  have ⟨january, december⟩ := Date.month_of_valid valid
  have long : t.date.day ≤ 31 := Nat.le_trans valid.2 (Date.daysInMonth_le _ _)
  have ⟨first, last⟩ := year_date t
  have whole : t.secondOfDay < 86400 := by
    unfold secondOfDay
    omega
  have hour : t.secondOfDay / 3600 ≤ 23 := by omega
  have minute : t.secondOfDay / 60 % 60 ≤ 59 := by omega
  have fraction : t.fraction % 1000000000 < 1000000000 := by omega
  have civil := ofCivil_date t
  have second : (if 1000000000 ≤ t.fraction then t.secondOfDay % 60 + 1
      else t.secondOfDay % 60) ≤ 60 := by
    split <;> omega
  unfold toChars secondChars
  simp only [List.append_assoc, List.cons_append]
  generalize (if 1000000000 ≤ t.fraction then t.secondOfDay % 60 + 1
      else t.secondOfDay % 60) = s at *
  unfold parseChars
  rw [readYear_yearChars (by omega) (by omega) (stops_cons (by decide) _)]
  have dash := readMark_cons (by decide : Text.isBlank '-' = false)
  have colon := readMark_cons (by decide : Text.isBlank ':' = false)
  have zulu : Stops ['Z'] := stops_cons (by decide) []
  simp only [bind, Except.bind, dash, trimLeft_fixed, readPart_fixed january december (by decide),
    readPart_fixed valid.1 long (by decide), readSeparator_mark]
  simp only [colon, trimLeft_fixed, readPart_fixed (Nat.zero_le _) hour (by decide),
    readPart_fixed (Nat.zero_le _) minute (by decide),
    readPart_fixed (Nat.zero_le _) second (by decide)]
  rw [readFraction_fractionChars fraction zulu (by decide)]
  simp only [Text.trimLeft_cons_of_not_blank (by decide : Text.isBlank 'Z' = false), readOffset_zulu,
    List.all_nil, if_true, civil]

/-- The text of an instant is read as the instant that it shows. -/
theorem parse_toText (t : Instant) : parse t.toText = .ok t.written := by
  rw [parse, toText, String.toList_ofList]
  exact parseChars_toChars t

/-- Half of a leap second. -/
example : Instant.toText ⟨1483228799, 1500000000, by decide, by decide, by decide⟩ =
    "2016-12-31T23:59:60.500Z" := by decide

/-- The fraction of a leap second within a minute. -/
example : Instant.toText ⟨4, 1333333333, by decide, by decide, by decide⟩ =
    "1970-01-01T00:00:05.333333333Z" := by decide

/-- A quarter into another leap second. -/
def sampleLeap : Instant := ⟨1435708799, 1250000000, by decide, by decide, by decide⟩

/-- A time with the fraction of a leap second within a minute. -/
def sampleStray : Instant := ⟨4, 1333333333, by decide, by decide, by decide⟩

/-- The instant that its text shows. -/
def sampleShown : Instant := ⟨5, 333333333, by decide, by decide, by decide⟩

/-! ## What is written of the instant that a text shows -/

/-- The parts that are written of the instant that a text shows are those of the text. -/
theorem written_parts (t : Instant) :
    t.written.date = t.date ∧ t.written.secondOfDay / 60 = t.secondOfDay / 60 ∧
      (if 1000000000 ≤ t.written.fraction then t.written.secondOfDay % 60 + 1
        else t.written.secondOfDay % 60) =
        (if 1000000000 ≤ t.fraction then t.secondOfDay % 60 + 1 else t.secondOfDay % 60) ∧
      t.written.fraction % 1000000000 = t.fraction % 1000000000 := by
  by_cases regular : t.Regular
  · simp only [written_of_regular regular, and_self]
  · obtain ⟨inside, within, next, rest⟩ := written_of_not_regular regular
    have fits := t.fraction_lt
    have day : t.written.seconds / 86400 = t.seconds / 86400 := by omega
    have second : t.written.secondOfDay = t.secondOfDay + 1 := by
      unfold secondOfDay
      omega
    have minute : t.secondOfDay % 60 ≠ 59 := by
      unfold secondOfDay
      omega
    refine ⟨congrArg Date.ofDayNumber day, by omega, ?_, by omega⟩
    rw [if_neg (by omega), if_pos inside]
    omega

theorem secondChars_written (t : Instant) : t.written.secondChars = t.secondChars := by
  obtain ⟨date, minute, second, -⟩ := t.written_parts
  have hour : t.written.secondOfDay / 3600 = t.secondOfDay / 3600 := by omega
  simp only [secondChars, date, minute, hour, second]

theorem toText_written (t : Instant) : t.written.toText = t.toText := by
  rw [toText, toText, toChars, toChars, secondChars_written, t.written_parts.2.2.2]

theorem toMicrosText_written (t : Instant) : t.written.toMicrosText = t.toMicrosText := by
  rw [toMicrosText, toMicrosText, secondChars_written, t.written_parts.2.2.2]

end JobNode.Instant
