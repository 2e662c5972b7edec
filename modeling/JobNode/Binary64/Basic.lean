/-!
# Binary floating-point numbers

The 64-bit numbers of IEEE 754, kept as their bits, with the arithmetic that reading and writing
numbers in text needs.  Every operation is exact on natural numbers: a finite number is a
significand times a power of two, and a quotient is rounded once to the nearest number with ties
going to the even significand.
-/

namespace JobNode

/-- A 64-bit binary floating-point number. -/
structure Binary64 where
  bits : UInt64
  deriving DecidableEq

namespace Binary64

/-- The place of the sign bit. -/
def signUnit : Nat := 0x8000000000000000

/-- The place of the bits above the fraction. -/
def fractionUnit : Nat := 0x10000000000000

/-- The sign bit. -/
def isNegative (x : Binary64) : Bool :=
  signUnit ≤ x.bits.toNat

/-- The bits other than the sign. -/
def magnitude (x : Binary64) : Nat :=
  x.bits.toNat % signUnit

/-- The bits of infinity, which no finite magnitude reaches. -/
def infinityBits : Nat := 2047 * fractionUnit

/-- The number is neither infinite nor undefined. -/
def isFinite (x : Binary64) : Bool :=
  x.magnitude < infinityBits

/-- The number is zero, of either sign. -/
def isZero (x : Binary64) : Bool :=
  x.magnitude == 0

/-- The number with a given sign and magnitude. -/
def ofMagnitude (negative : Bool) (magnitude : Nat) : Binary64 :=
  ⟨UInt64.ofNat ((if negative then signUnit else 0) + magnitude % signUnit)⟩

/-- Infinity of either sign. -/
def infinity (negative : Bool) : Binary64 := ofMagnitude negative infinityBits

/-- The number is not a number. -/
def isNaN (x : Binary64) : Bool :=
  infinityBits < x.magnitude

/-- What is not a number. -/
def nan : Binary64 := ofMagnitude false (infinityBits + fractionUnit / 2)

/-- Zero. -/
def zero : Binary64 := ofMagnitude false 0

instance : Inhabited Binary64 := ⟨zero⟩

/-- The number with the other sign. -/
def neg (x : Binary64) : Binary64 :=
  ofMagnitude (!x.isNegative) x.magnitude

/-- Numerical equality: the two zeros are equal. -/
def same (x y : Binary64) : Bool :=
  x == y || (x.isZero && y.isZero)

/-- The first of two numbers is the smaller one. -/
def lt (x y : Binary64) : Bool :=
  if x.isNegative then
    if y.isNegative then y.magnitude < x.magnitude else !(x.isZero && y.isZero)
  else !y.isNegative && x.magnitude < y.magnitude

/-- The significand of a finite number. -/
def significand (x : Binary64) : Nat :=
  let field := x.magnitude / fractionUnit
  let low := x.magnitude % fractionUnit
  if field = 0 then low else fractionUnit + low

/-- The power of two that the significand is multiplied by, plus 1074. -/
def shift (x : Binary64) : Nat :=
  x.magnitude / fractionUnit - 1

/-- The power of two `2 ^ (shift - 1074)` over a denominator of `2 ^ 1074`. -/
def scaledNumerator (x : Binary64) : Nat :=
  x.significand <<< x.shift

/-- The denominator that goes with `scaledNumerator`. -/
def commonDenominator : Nat := 1 <<< 1074

/-- `num / den` rounded to the nearest natural number, ties to the even one. -/
def roundHalfEven (num den : Nat) : Nat :=
  let q := num / den
  let twice := 2 * (num % den)
  if den < twice ∨ (twice = den ∧ q % 2 = 1) then q + 1 else q

/-- The number nearest to `num / den`; infinity when every finite one is too small. -/
def ofRatio (negative : Bool) (num den : Nat) : Binary64 :=
  if num = 0 ∨ den = 0 then ofMagnitude negative 0
  else
    -- the significand gets 53 bits, unless the smallest power of two forbids it
    let guess : Int := (num.log2 : Int) - den.log2 - 52
    let fits (e : Int) : Bool :=
      if 0 ≤ e then (fractionUnit * den) <<< e.toNat ≤ num
      else fractionUnit * den ≤ num <<< (-e).toNat
    let exact := if fits guess then guess else guess - 1
    let exponent := if exact < -1074 then -1074 else exact
    let q :=
      if 0 ≤ exponent then roundHalfEven num (den <<< exponent.toNat)
      else roundHalfEven (num <<< (-exponent).toNat) den
    let magnitude := (exponent + 1074).toNat * fractionUnit + q
    ofMagnitude negative (Nat.min magnitude infinityBits)

/-- The number nearest to a natural number. -/
def ofNat (n : Nat) : Binary64 :=
  ofRatio false n 1

/-- The number nearest to an integer. -/
def ofInt (n : Int) : Binary64 :=
  ofRatio (n < 0) n.natAbs 1

/-- The rounded product of two finite numbers. -/
def mul (x y : Binary64) : Binary64 :=
  ofRatio (x.isNegative != y.isNegative) (x.scaledNumerator * y.scaledNumerator)
    (commonDenominator * commonDenominator)

/-- The rounded quotient of two finite numbers; the divisor is not zero. -/
def div (x y : Binary64) : Binary64 :=
  ofRatio (x.isNegative != y.isNegative) x.scaledNumerator y.scaledNumerator

/-- The integer part of a finite number, without its sign. -/
def truncate (x : Binary64) : Nat :=
  x.scaledNumerator / commonDenominator

/-- The number nearest to a power of ten. -/
def powerOfTen (k : Nat) : Binary64 :=
  ofNat (Nat.pow 10 k)

/-- The largest power of ten that is finite. -/
def maxPowerOfTen : Nat := 308

/-- `x · 10 ^ e`, multiplied or divided by powers of ten that are numbers themselves; nothing when
the result would be infinite. -/
def scale (x : Binary64) (e : Int) : Option Binary64 :=
  if e.natAbs ≤ maxPowerOfTen then
    if 0 ≤ e then
      let y := x.mul (powerOfTen e.natAbs)
      if y.isFinite then some y else none
    else some (x.div (powerOfTen e.natAbs))
  else if x.isZero then some x
  else if 0 ≤ e then none
  else scale (x.div (powerOfTen maxPowerOfTen)) (e + maxPowerOfTen)
termination_by e.natAbs
decreasing_by simp only [maxPowerOfTen] at *; omega

end Binary64

end JobNode
