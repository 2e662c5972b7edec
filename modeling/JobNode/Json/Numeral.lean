import JobNode.Json.Basic

/-!
# Numerals

A JSON number as written, and the number it stands for.  A numeral without fraction and exponent
that fits into a 64-bit word is that integer, minus zero excepted.  Any other numeral is read as a
floating-point number in two roundings: the leading digits that fit into a 64-bit word are taken as
an integer, and that integer is scaled by a power of ten.
-/

namespace JobNode.Json

/-- A JSON number as written. -/
structure Numeral where
  negative : Bool
  /-- Digits before the point. -/
  whole : List Char
  /-- Digits after the point, if there is one. -/
  fraction : Option (List Char)
  /-- Sign and digits of the exponent, if there is one. -/
  exponent : Option (Bool × List Char)

namespace Numeral

/-- The largest number of a 64-bit word. -/
def maxWord : Nat := 18446744073709551615

/-- The largest number of a signed 32-bit word. -/
def maxExponent : Nat := 2147483647

/-- Take digits while the number they spell fits into a 64-bit word: the number, and how many
digits were taken and left. -/
def accumulate (n : Nat) : List Char → Nat × Nat × Nat
  | [] => (n, 0, 0)
  | c :: cs =>
    if maxWord < 10 * n + Decimal.digitValue c then (n, 0, cs.length + 1)
    else
      let (m, taken, left) := accumulate (10 * n + Decimal.digitValue c) cs
      (m, taken + 1, left)

/-- The leading digits as an integer, and the power of ten it is to be multiplied by. -/
def leading (n : Numeral) : Nat × Int :=
  let (m, _, left) := accumulate 0 n.whole
  let (m, taken, _) := accumulate m (n.fraction.getD [])
  (m, (left : Int) - taken)

/-- The power of ten that the exponent adds, or whether its size is beyond any number. -/
def written (n : Numeral) : Except Bool Int :=
  match n.exponent with
  | none => .ok 0
  | some (negative, cs) =>
    let e := Decimal.ofDigits cs
    if maxExponent < e then .error negative
    else .ok (if negative then -(e : Int) else e)

/-- The floating-point number; none if it would be infinite. -/
def toBinary64? (n : Numeral) : Option Binary64 :=
  let (m, e) := n.leading
  let magnitude :=
    match n.written with
    | .ok e' => (Binary64.ofNat m).scale (e + e')
    | .error negative => if m = 0 ∨ negative then some .zero else none
  magnitude.map fun x => if n.negative then x.neg else x

/-- The number; none if it would be infinite. -/
def value? (n : Numeral) : Option Number :=
  match n.fraction, n.exponent with
  | none, none =>
    let m := Decimal.ofDigits n.whole
    if n.negative then
      if 0 < m ∧ m ≤ 9223372036854775808 then some (.int (-(m : Int)))
      else n.toBinary64?.map .float
    else if m ≤ maxWord then some (.int m)
    else n.toBinary64?.map .float
  | _, _ => n.toBinary64?.map .float

end Numeral

end JobNode.Json
