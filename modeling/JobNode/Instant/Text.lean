import JobNode.Instant.Basic
import JobNode.Text.Basic
import JobNode.Text.Decimal

/-!
# Instants in text

Instants are written in the RFC 3339 form in UTC: years of four digits, or signed with at least
four; a fraction of three, six or nine digits, as many as it takes, or none; the letter `Z`.  The
reader is more generous.  It takes white space between the parts, a signed year of any length,
parts of one digit, a blank for the letter `T`, fractions of any length, and an offset from UTC.
-/

namespace JobNode.Instant

/-! ## Writing -/

/-- The text of a year. -/
def yearChars (year : Int) : List Char :=
  if 0 ≤ year ∧ year ≤ 9999 then Decimal.fixed 4 year.toNat
  else (if year < 0 then '-' else '+') :: Decimal.padded 4 year.natAbs

/-- Date and time to the second; a leap second is second 60. -/
def secondChars (t : Instant) : List Char :=
  let d := t.date
  let s := t.secondOfDay
  let second := if 1000000000 ≤ t.fraction then s % 60 + 1 else s % 60
  yearChars d.year ++ '-' :: Decimal.fixed 2 d.month ++ '-' :: Decimal.fixed 2 d.day
    ++ 'T' :: Decimal.fixed 2 (s / 3600) ++ ':' :: Decimal.fixed 2 (s / 60 % 60)
    ++ ':' :: Decimal.fixed 2 second

/-- The fraction with as many groups of three digits as it takes. -/
def fractionChars (n : Nat) : List Char :=
  if n = 0 then []
  else if n % 1000000 = 0 then '.' :: Decimal.fixed 3 (n / 1000000)
  else if n % 1000 = 0 then '.' :: Decimal.fixed 6 (n / 1000)
  else '.' :: Decimal.fixed 9 n

/-- The text of an instant at full precision. -/
def toChars (t : Instant) : List Char :=
  t.secondChars ++ fractionChars (t.fraction % 1000000000) ++ ['Z']

/-- The text of an instant at full precision. -/
def toText (t : Instant) : String :=
  String.ofList t.toChars

/-- The text of an instant cut to microseconds. -/
def toMicrosText (t : Instant) : String :=
  String.ofList
    (t.secondChars ++ '.' :: Decimal.fixed 6 (t.fraction % 1000000000 / 1000) ++ ['Z'])

/-! ## Reading -/

/-- Why a text is no instant. -/
inductive ParseError where
  | outOfRange
  | impossible
  | invalid
  | tooShort
  | tooLong
  deriving Repr, DecidableEq

/-- The message of the error. -/
def ParseError.message : ParseError → String
  | outOfRange => "input is out of range"
  | impossible => "no possible date and time matching input"
  | invalid => "input contains invalid characters"
  | tooShort => "premature end of input"
  | tooLong => "trailing input"

/-- A reader takes a part off the front of a text. -/
abbrev Reader (α : Type) := List Char → Except ParseError (α × List Char)

/-- The largest number a part may spell before its range is looked at. -/
def maxNumeral : Nat := 9223372036854775807

/-- A number of one to `most` digits. -/
def readNumber (most : Nat) : Reader Nat
  | [] => .error .tooShort
  | c :: cs =>
    let digits := ((c :: cs).take most).takeWhile Decimal.isDigit
    let n := Decimal.ofDigits digits
    if digits = [] then .error .invalid
    else if maxNumeral < n then .error .outOfRange
    else .ok (n, (c :: cs).drop digits.length)

/-- A number within bounds, after white space. -/
def readPart (most low high : Nat) : Reader Nat := fun cs => do
  let (n, rest) ← readNumber most (Text.trimLeft cs)
  if n < low ∨ high < n then .error .outOfRange else .ok (n, rest)

/-- The bounds of a year before the calendar is asked. -/
def yearInBounds (year : Int) : Bool :=
  -2147483648 ≤ year && year ≤ 2147483647

/-- A year: up to four digits, or a sign and any number of digits. -/
def readYear : Reader Int := fun cs => do
  let cs := Text.trimLeft cs
  let (year, rest) ← match cs with
    | '-' :: digits => do
      let (n, rest) ← readNumber digits.length digits
      .ok (-(n : Int), rest)
    | '+' :: digits => do
      let (n, rest) ← readNumber digits.length digits
      .ok ((n : Int), rest)
    | _ => do
      let (n, rest) ← readNumber 4 cs
      .ok ((n : Int), rest)
  if yearInBounds year then .ok (year, rest) else .error .outOfRange

/-- A mark between two parts, white space around it allowed. -/
def readMark (mark : Char) (cs : List Char) : Except ParseError (List Char) :=
  match Text.trimLeft cs with
  | [] => .error .tooShort
  | c :: rest => if c = mark then .ok (Text.trimLeft rest) else .error .invalid

/-- The fraction of a second in nanoseconds; digits after the ninth are dropped. -/
def readFraction : Reader Nat
  | '.' :: cs => do
    let (n, rest) ← readNumber 9 cs
    let width := Nat.min 9 (cs.takeWhile Decimal.isDigit).length
    .ok (n * Nat.pow 10 (9 - width), rest.dropWhile Decimal.isDigit)
  | cs => .ok (0, cs)

/-- Two digits and the text after them. -/
def readTwoDigits : Reader Nat
  | [] => .error .tooShort
  | [c] => if c.utf8Size = 1 then .error .tooShort else .error .invalid
  | a :: b :: rest =>
    if Decimal.isDigit a && Decimal.isDigit b then
      .ok (10 * Decimal.digitValue a + Decimal.digitValue b, rest)
    else .error .invalid

/-- The character may stand between the hours and the minutes of an offset. -/
def isOffsetSeparator (c : Char) : Bool :=
  c = ':' || Text.isBlank c

/-- The size of an offset in seconds, after its sign. -/
def readOffsetSize : Reader Nat := fun cs => do
  let (hours, rest) ← readTwoDigits cs
  let (minutes, rest) ← readTwoDigits (rest.dropWhile isOffsetSeparator)
  if 60 ≤ minutes then .error .outOfRange else .ok (hours * 3600 + minutes * 60, rest)

/-- An offset from UTC in seconds. -/
def readSignedOffset : Reader Int
  | [] => .error .tooShort
  | c :: cs =>
    if c = 'Z' ∨ c = 'z' then .ok (0, cs)
    else if c = '+' then do
      let (n, rest) ← readOffsetSize cs
      .ok ((n : Int), rest)
    else if c = '-' ∨ c = '−' then do
      let (n, rest) ← readOffsetSize cs
      .ok (-(n : Int), rest)
    else .error .invalid

/-- An offset from UTC in seconds; the letters `UTC` in either case stand for zero. -/
def readOffset : Reader Int := fun cs =>
  match cs with
  | a :: b :: c :: rest =>
    if [a.toUpper, b.toUpper, c.toUpper] = ['U', 'T', 'C'] then .ok (0, rest)
    else readSignedOffset cs
  | _ => readSignedOffset cs

/-- The letter or blank between date and time. -/
def readSeparator : List Char → Except ParseError (List Char)
  | [] => .error .tooShort
  | c :: rest => if c = 'T' ∨ c = 't' ∨ c = ' ' then .ok rest else .error .invalid

/-- The years that have dates. -/
def yearHasDates (year : Int) : Bool :=
  -262143 ≤ year && year ≤ 262142

/-- The instant of a date and a time of day at an offset from UTC. -/
def ofCivil (date : Date) (hour minute second fraction : Nat) (offset : Int) :
    Except ParseError Instant :=
  if ¬ yearHasDates date.year ∨ ¬ date.Valid then .error .outOfRange
  else if offset ≤ -86400 ∨ 86400 ≤ offset then .error .outOfRange
  else
    let leapSecond := second = 60
    let second := if leapSecond then 59 else second
    let fraction := if leapSecond then fraction + 1000000000 else fraction
    let seconds := date.dayNumber * 86400 + hour * 3600 + minute * 60 + second - offset
    match ofParts? seconds fraction with
    | some t => .ok t
    | none => .error .impossible

/-- Read an instant; white space around it is allowed. -/
def parseChars (cs : List Char) : Except ParseError Instant := do
  let (year, cs) ← readYear cs
  let cs ← readMark '-' cs
  let (month, cs) ← readPart 2 1 12 cs
  let cs ← readMark '-' cs
  let (day, cs) ← readPart 2 1 31 cs
  let cs ← readSeparator cs
  let (hour, cs) ← readPart 2 0 23 cs
  let cs ← readMark ':' cs
  let (minute, cs) ← readPart 2 0 59 cs
  let cs ← readMark ':' cs
  let (second, cs) ← readPart 2 0 60 cs
  let (fraction, cs) ← readFraction cs
  let (offset, cs) ← readOffset (Text.trimLeft cs)
  if cs.all Text.isBlank then ofCivil ⟨year, month, day⟩ hour minute second fraction offset
  else .error .tooLong

/-- Read an instant. -/
def parse (s : String) : Except ParseError Instant :=
  parseChars s.toList

end JobNode.Instant
