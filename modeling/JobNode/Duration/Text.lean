import JobNode.Duration.Basic
import JobNode.Text.Basic
import JobNode.Text.Decimal

/-!
# Durations in text

Settings give a duration as a whole number and one of the units `ms`, `s`, `m` and `h`.  Messages
show one in the largest of the units `s`, `ms`, `µs` and `ns` that leaves a whole part, with the
digits of the fraction that matter.
-/

namespace JobNode.Duration

/-- The largest number that fits into a 64-bit word. -/
def maxWord : Nat := 18446744073709551615

/-- Why a text is no duration; both cases keep the text without surrounding white space. -/
inductive ParseError where
  | badAmount (text : String)
  | badUnit (text : String)
  deriving Repr, DecidableEq

/-- The message of the error. -/
def ParseError.message : ParseError → String
  | badAmount text => "invalid duration '" ++ text ++ "'"
  | badUnit text => "invalid duration '" ++ text ++ "': expected a unit of ms, s, m or h"

/-- The units of a written duration. -/
inductive TimeUnit where
  | milliseconds
  | seconds
  | minutes
  | hours
  deriving Repr, DecidableEq

namespace TimeUnit

/-- The unit with a given symbol. -/
def ofSymbol? : List Char → Option TimeUnit
  | ['m', 's'] => some milliseconds
  | ['s'] => some seconds
  | ['m'] => some minutes
  | ['h'] => some hours
  | _ => none

/-- `n` units; a number of seconds that a 64-bit word cannot hold becomes the largest that fits. -/
def times (unit : TimeUnit) (n : Nat) : Duration :=
  match unit with
  | milliseconds => ofMillis n
  | seconds => ofSecs n
  | minutes => ofSecs (Nat.min (n * 60) maxWord)
  | hours => ofSecs (Nat.min (n * 3600) maxWord)

end TimeUnit

/-- Read a duration such as `250ms` or `2h`, ignoring surrounding white space. -/
def parse (s : String) : Except ParseError Duration :=
  let cs := Text.trimChars s.toList
  let amount := cs.takeWhile Decimal.isDigit
  let n := Decimal.ofDigits amount
  if amount = [] ∨ maxWord < n then .error (.badAmount (String.ofList cs))
  else
    match TimeUnit.ofSymbol? (cs.dropWhile Decimal.isDigit) with
    | some unit => .ok (unit.times n)
    | none => .error (.badUnit (String.ofList cs))

/-- The digits after the point, `width` of them before trailing zeros are dropped. -/
def fractionChars (width n : Nat) : List Char :=
  let shown := ((Decimal.fixed width n).reverse.dropWhile (· == '0')).reverse
  if shown = [] then [] else '.' :: shown

/-- The text that messages show. -/
def toText (d : Duration) : String :=
  let (whole, fraction, unit) :=
    if 0 < d.secs then (d.secs, fractionChars 9 d.subsecNanos, "s")
    else if 1000000 ≤ d.nanos then (d.nanos / 1000000, fractionChars 6 (d.nanos % 1000000), "ms")
    else if 1000 ≤ d.nanos then (d.nanos / 1000, fractionChars 3 (d.nanos % 1000), "µs")
    else (d.nanos, [], "ns")
  String.ofList (Decimal.digits whole ++ fraction) ++ unit

end JobNode.Duration
