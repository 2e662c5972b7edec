import JobNode.Binary64.Basic
import JobNode.Text.Decimal

/-!
# Text of binary floating-point numbers

The shortest text of a number is found by looking at the decimal grids in turn: the coarsest grid
that has a point which rounds to the number wins, and of two such points the nearer one.  A decimal
is read by rounding it once to the nearest number.
-/

namespace JobNode

namespace Binary64

/-! ## Shortest text -/

/-- The interval of reals that round to a number: three numerators over one denominator. -/
structure Neighbourhood where
  low : Nat
  value : Nat
  high : Nat
  den : Nat
  /-- The ends round to the number too. -/
  closed : Bool

/-- The interval of reals that round to a finite number other than zero. -/
def neighbourhood (x : Binary64) : Neighbourhood :=
  let m := x.significand
  let scale := 1 <<< x.shift
  -- below a power of two the numbers lie twice as dense
  let gap := if m = fractionUnit ∧ 0 < x.shift then 1 else 2
  ⟨(4 * m - gap) * scale, 4 * m * scale, (4 * m + 2) * scale, 4 * commonDenominator, m % 2 == 0⟩

/-- `c · 10 ^ e` lies in the interval. -/
def Neighbourhood.holds (i : Neighbourhood) (c : Nat) (e : Int) : Bool :=
  let num := if 0 ≤ e then c * Nat.pow 10 e.toNat * i.den else c * i.den
  let unit := if 0 ≤ e then 1 else Nat.pow 10 (-e).toNat
  if i.closed then i.low * unit ≤ num && num ≤ i.high * unit
  else i.low * unit < num && num < i.high * unit

/-- The grid point below the value on the grid of multiples of `10 ^ e`, and twice the rest with
the step it is compared to. -/
def Neighbourhood.below (i : Neighbourhood) (e : Int) : Nat × Nat × Nat :=
  let num := if 0 ≤ e then i.value else i.value * Nat.pow 10 (-e).toNat
  let den := if 0 ≤ e then i.den * Nat.pow 10 e.toNat else i.den
  (num / den, 2 * (num % den), den)

/-- The decimal on the grid of multiples of `10 ^ e` that reads back, the nearer of two. -/
def Neighbourhood.onGrid? (i : Neighbourhood) (e : Int) : Option Nat :=
  let (c, twice, step) := i.below e
  let below := i.holds c e
  let above := i.holds (c + 1) e
  if below && above then
    if twice < step ∨ (twice = step ∧ c % 2 = 0) then some c else some (c + 1)
  else if below then some c
  else if above then some (c + 1)
  else none

/-- The number of digits before the point of `num / den`, negative for leading zeros after it. -/
def pointPosition (num den : Nat) : Int :=
  if den ≤ num then ((Decimal.digits (num / den)).length : Int)
  else 1 - ((Decimal.digits (den / num)).length : Int) +
    (if Nat.pow 10 ((Decimal.digits (den / num)).length - 1) * num = den then 1 else 0)

/-- The coarsest of the grids from `e` down to `e - fuel` that has a decimal that reads back. -/
def Neighbourhood.search (i : Neighbourhood) : Nat → Int → Nat × Int
  | 0, e => ((i.onGrid? e).getD 0, e)
  | fuel + 1, e =>
    match i.onGrid? e with
    | some c => (c, e)
    | none => i.search fuel (e - 1)

/-- The decimal with the fewest digits that reads back: digits and power of ten. -/
def shortest (x : Binary64) : Nat × Int :=
  let i := x.neighbourhood
  i.search 18 (pointPosition i.value i.den)

/-! ## Layouts -/

/-- How a number is laid out in text. -/
structure Layout where
  /-- Exponents of the first digit that are written without an exponent. -/
  positionalFrom : Int
  positionalTo : Int
  /-- Whole numbers are written with `.0` where they have no exponent. -/
  showsPoint : Bool

/-- Numbers from `10⁻⁵` up to `10¹⁶` are written without an exponent, and an exponent has a sign
and no leading zeros. -/
def Layout.standard : Layout := ⟨-5, 15, true⟩

/-- No number is written with an exponent, and whole numbers are written without a point. -/
def Layout.plain : Layout := ⟨-400, 400, false⟩

/-- The digits without trailing zeros, and how many were dropped. -/
def dropZeros (cs : List Char) : List Char × Nat :=
  let zeros := (cs.reverse.takeWhile (· == '0')).length
  (cs.take (cs.length - zeros), zeros)

/-- The text of digits `cs` times `10 ^ e`. -/
def Layout.write (layout : Layout) (cs : List Char) (e : Int) : List Char :=
  let first := e + cs.length - 1
  if layout.positionalFrom ≤ first ∧ first ≤ layout.positionalTo then
    if 0 ≤ e then
      cs ++ List.replicate e.toNat '0' ++ (if layout.showsPoint then ['.', '0'] else [])
    else if 0 ≤ first then
      cs.take (first.toNat + 1) ++ '.' :: cs.drop (first.toNat + 1)
    else '0' :: '.' :: List.replicate (-first - 1).toNat '0' ++ cs
  else
    let fraction := if cs.length ≤ 1 then [] else '.' :: cs.drop 1
    let sign := if first < 0 then '-' else '+'
    cs.take 1 ++ fraction ++ 'e' :: sign :: Decimal.digits first.natAbs

/-- The shortest text of a finite number that reads back. -/
def Layout.chars (layout : Layout) (x : Binary64) : List Char :=
  let sign := if x.isNegative then ['-'] else []
  if x.isZero then sign ++ '0' :: (if layout.showsPoint then ['.', '0'] else [])
  else
    let (c, e) := x.shortest
    let (cs, zeros) := dropZeros (Decimal.digits c)
    sign ++ layout.write cs (e + zeros)

/-- The shortest text that reads back. -/
def toChars (x : Binary64) : List Char := Layout.standard.chars x

/-- The shortest text that reads back. -/
def toText (x : Binary64) : String :=
  String.ofList x.toChars

/-- The text without an exponent of any number. -/
def toPlainText (x : Binary64) : String :=
  if x.isNaN then "NaN"
  else if x.isFinite then String.ofList (Layout.plain.chars x)
  else if x.isNegative then "-inf"
  else "inf"

/-! ## Reading -/

/-- The number nearest to `m · 10 ^ e`. -/
def ofDecimal (negative : Bool) (m : Nat) (e : Int) : Binary64 :=
  let first := e + (Decimal.digits m).length
  if m = 0 ∨ first < -400 then ofMagnitude negative 0
  else if 400 < first then infinity negative
  else if 0 ≤ e then ofRatio negative (m * Nat.pow 10 e.toNat) 1
  else ofRatio negative m (Nat.pow 10 (-e).toNat)

/-- The exponent at the end of a number: nothing, or `e`, a sign if there is one, and digits. -/
def readExponent? (cs : List Char) : Option Int :=
  let digits? (cs : List Char) : Option Nat :=
    if cs ≠ [] ∧ cs.all Decimal.isDigit then some (Decimal.ofDigits cs) else none
  match cs with
  | [] => some 0
  | mark :: rest =>
    if mark = 'e' ∨ mark = 'E' then
      match rest with
      | '-' :: digits => (digits? digits).map fun n => -(n : Int)
      | '+' :: digits => (digits? digits).map fun n => (n : Int)
      | digits => (digits? digits).map fun n => (n : Int)
    else none

/-- The number that digits with a point and an exponent spell, the latter two if they are there;
one digit at least comes before or after the point. -/
def readDecimal? (negative : Bool) (cs : List Char) : Option Binary64 :=
  let whole := cs.takeWhile Decimal.isDigit
  let (part, rest) :=
    match cs.drop whole.length with
    | '.' :: rest => (rest.takeWhile Decimal.isDigit, rest.dropWhile Decimal.isDigit)
    | rest => ([], rest)
  if whole = [] ∧ part = [] then none
  else
    (readExponent? rest).map fun e =>
      ofDecimal negative (Decimal.ofDigits (whole ++ part)) (e - part.length)

/-- The number that characters spell: a sign if there is one, and then digits, or a name of
infinity or of what is not a number in letters of either case. -/
def read? (cs : List Char) : Option Binary64 :=
  let (negative, body) :=
    match cs with
    | '-' :: rest => (true, rest)
    | '+' :: rest => (false, rest)
    | cs => (false, cs)
  match readDecimal? negative body with
  | some x => some x
  | none =>
    let name := String.ofList (body.map Char.toLower)
    if name = "inf" ∨ name = "infinity" then some (infinity negative)
    else if name = "nan" then some nan
    else none

end Binary64

end JobNode
