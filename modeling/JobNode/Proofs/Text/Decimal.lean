import JobNode.Text.Basic
import JobNode.Text.Decimal

/-!
# Digits at the front of a text

A reader takes the longest run of digits.  What a number is written with is taken whole where the
text after it does not go on with a digit (`Stops`), and spells the number again, whatever zeros it
was padded with.
-/

namespace JobNode

namespace Decimal

/-! ## Runs of digits -/

/-- The text does not go on with a digit. -/
def Stops (rest : List Char) : Prop := ∀ c ∈ rest.head?, isDigit c = false

@[simp]
theorem stops_nil : Stops [] := fun _ head => nomatch head

theorem stops_cons {c : Char} (other : isDigit c = false) (rest : List Char) : Stops (c :: rest) := by
  intro d head
  cases head
  exact other

theorem takeWhile_of_stops {ds rest : List Char} (digits : ds.all isDigit = true)
    (stops : Stops rest) : (ds ++ rest).takeWhile isDigit = ds := by
  rw [List.takeWhile_append_of_pos (by simpa using digits)]
  cases rest with
  | nil => simp
  | cons c rest => simp [stops c rfl]

theorem dropWhile_of_stops {ds rest : List Char} (digits : ds.all isDigit = true)
    (stops : Stops rest) : (ds ++ rest).dropWhile isDigit = rest := by
  rw [List.dropWhile_append_of_pos (by simpa using digits)]
  cases rest with
  | nil => simp
  | cons c rest => simp [stops c rfl]

theorem ne_of_isDigit {c d : Char} (digit : isDigit c = true) (other : isDigit d = false) :
    c ≠ d := by
  rintro rfl
  rw [digit] at other
  cases other

/-! ## Leading zeros -/

theorem ofDigits_replicate_zero_append (k : Nat) (cs : List Char) :
    ofDigits (List.replicate k '0' ++ cs) = ofDigits cs := by
  induction k with
  | zero => rfl
  | succ k ih =>
    rw [List.replicate_succ, List.cons_append, ofDigits, List.foldl_cons]
    exact ih

theorem ofDigits_padded (width n : Nat) : ofDigits (padded width n) = n := by
  rw [padded, ofDigits_replicate_zero_append, ofDigits_digits]

theorem all_isDigit_padded (width n : Nat) : (padded width n).all isDigit = true := by
  simp only [padded, List.all_append, all_isDigit_digits, Bool.and_true, List.all_eq_true]
  intro c zero
  rw [List.eq_of_mem_replicate zero]
  rfl

theorem padded_ne_nil (width n : Nat) : padded width n ≠ [] := by
  simp [padded, digits_ne_nil]

theorem fixed_ne_nil {width : Nat} (pos : 0 < width) (n : Nat) : fixed width n ≠ [] := by
  intro none
  have length := length_fixed width n
  rw [none] at length
  exact absurd length (Nat.ne_of_lt pos)

/-- A number is written without leading zeros. -/
theorem digits_ne_zero_cons (n : Nat) (c : Char) (cs : List Char) : digits n ≠ '0' :: c :: cs := by
  fun_induction digits n generalizing c cs with
  | case1 n small => simp
  | case2 n large ih =>
    intro eq
    cases front : digits (n / 10) with
    | nil => exact digits_ne_nil _ front
    | cons d ds =>
      rw [front] at eq ih
      injection eq with head tail
      subst head
      cases ds with
      | cons e es => exact ih e es rfl
      | nil =>
        -- the number before the last digit is zero, so there was no need for two digits
        have value := ofDigits_digits (n / 10)
        rw [front] at value
        have : ofDigits ['0'] = 0 := rfl
        omega

end Decimal

namespace Text

theorem isBlank_of_isDigit {c : Char} (digit : Decimal.isDigit c = true) : isBlank c = false := by
  simp only [Decimal.isDigit, Bool.and_eq_true, decide_eq_true_eq] at digit
  simp only [isBlank]
  grind

theorem trimLeft_digits {ds : List Char} (some : ds ≠ []) (digits : ds.all Decimal.isDigit = true)
    (rest : List Char) : trimLeft (ds ++ rest) = ds ++ rest := by
  cases ds with
  | nil => exact absurd rfl some
  | cons d ds =>
    rw [List.all_cons, Bool.and_eq_true] at digits
    exact trimLeft_cons_of_not_blank (isBlank_of_isDigit digits.1)

end Text

end JobNode
