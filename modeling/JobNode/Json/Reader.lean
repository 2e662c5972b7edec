import JobNode.Json.Numeral

/-!
# Reading JSON text

A reader by recursive descent.  Every value takes at least one character, so a reader that is given
one step a character never runs out of steps.

* `Tree.parse` reads a document and refuses anything but white space after it.
-/

namespace JobNode.Json

/-- White space between the parts of a document. -/
def isSpace (c : Char) : Bool :=
  c = ' ' || c = '\n' || c = '\t' || c = '\r'

/-- Drop white space at the front. -/
def skipSpace (cs : List Char) : List Char :=
  cs.dropWhile isSpace

/-! ## Strings -/

/-- A part of a string as written: a character, or a code unit given by number. -/
inductive StringPart where
  | char (c : Char)
  | unit (n : Nat)

/-- The value of a hexadecimal digit. -/
def hexValue? (c : Char) : Option Nat :=
  let n := c.toNat
  if 48 ≤ n ∧ n ≤ 57 then some (n - 48)
  else if 97 ≤ n ∧ n ≤ 102 then some (n - 87)
  else if 65 ≤ n ∧ n ≤ 70 then some (n - 55)
  else none

/-- The number that four hexadecimal digits spell. -/
def hexUnit? (a b c d : Char) : Option Nat :=
  match hexValue? a, hexValue? b, hexValue? c, hexValue? d with
  | some a, some b, some c, some d => some (((a * 16 + b) * 16 + c) * 16 + d)
  | _, _, _, _ => none

/-- The character that a one-letter escape names. -/
def escapedChar? (c : Char) : Option Char :=
  if c = '"' then some '"'
  else if c = '\\' then some '\\'
  else if c = '/' then some '/'
  else if c = 'b' then some '\x08'
  else if c = 'f' then some '\x0c'
  else if c = 'n' then some '\n'
  else if c = 'r' then some '\r'
  else if c = 't' then some '\t'
  else none

/-- Read the rest of a string, up to its closing mark. -/
def readString : List Char → Option (List StringPart × List Char)
  | [] => none
  | c :: cs =>
    if c = '"' then some ([], cs)
    else if c = '\\' then
      match cs with
      | [] => none
      | e :: cs =>
        if e = 'u' then
          match cs with
          | a :: b :: c :: d :: rest =>
            match hexUnit? a b c d, readString rest with
            | some n, some (parts, rest) => some (.unit n :: parts, rest)
            | _, _ => none
          | _ => none
        else
          match escapedChar? e, readString cs with
          | some x, some (parts, rest) => some (.char x :: parts, rest)
          | _, _ => none
    else if c.toNat < 32 then none
    else
      match readString cs with
      | some (parts, rest) => some (.char c :: parts, rest)
      | none => none

/-- The code unit is the first half of a surrogate pair. -/
def isHighSurrogate (n : Nat) : Bool := 55296 ≤ n && n ≤ 56319

/-- The code unit is the second half of a surrogate pair. -/
def isLowSurrogate (n : Nat) : Bool := 56320 ≤ n && n ≤ 57343

/-- The characters of a string; none if it holds half of a surrogate pair. -/
def joinParts : List StringPart → Option (List Char)
  | [] => some []
  | .char c :: rest => (joinParts rest).map (c :: ·)
  | .unit n :: rest =>
    if isHighSurrogate n then
      match rest with
      | .unit m :: rest =>
        if isLowSurrogate m then
          (joinParts rest).map (Char.ofNat (65536 + (n - 55296) * 1024 + (m - 56320)) :: ·)
        else none
      | _ => none
    else if isLowSurrogate n then none
    else (joinParts rest).map (Char.ofNat n :: ·)

/-- The string, if it is one. -/
def joinString (parts : List StringPart) : Option String :=
  (joinParts parts).map String.ofList

/-! ## Numerals -/

/-- Digits at the front of a text, and the text after them. -/
def spanDigits (cs : List Char) : List Char × List Char :=
  (cs.takeWhile Decimal.isDigit, cs.dropWhile Decimal.isDigit)

/-- The digits before the point: a zero stands alone. -/
def readWhole (cs : List Char) : Option (List Char × List Char) :=
  match spanDigits cs with
  | ([], _) => none
  | ('0' :: _ :: _, _) => none
  | (digits, rest) => some (digits, rest)

/-- The point and the digits after it, if there is one. -/
def readFraction (cs : List Char) : Option (Option (List Char) × List Char) :=
  match cs with
  | '.' :: cs =>
    match spanDigits cs with
    | ([], _) => none
    | (digits, rest) => some (some digits, rest)
  | _ => some (none, cs)

/-- The sign of an exponent. -/
def readSign : List Char → Bool × List Char
  | '-' :: cs => (true, cs)
  | '+' :: cs => (false, cs)
  | cs => (false, cs)

/-- The exponent, if there is one. -/
def readExponent (cs : List Char) : Option (Option (Bool × List Char) × List Char) :=
  match cs with
  | c :: cs' =>
    if c = 'e' ∨ c = 'E' then
      let (negative, cs') := readSign cs'
      match spanDigits cs' with
      | ([], _) => none
      | (digits, rest) => some (some (negative, digits), rest)
    else some (none, cs)
  | [] => some (none, [])

/-- Read a numeral after its minus sign. -/
def readUnsigned (negative : Bool) (cs : List Char) : Option (Numeral × List Char) := do
  let (whole, cs) ← readWhole cs
  let (fraction, cs) ← readFraction cs
  let (exponent, cs) ← readExponent cs
  some (⟨negative, whole, fraction, exponent⟩, cs)

/-- Read a numeral. -/
def readNumeral : List Char → Option (Numeral × List Char)
  | '-' :: cs => readUnsigned true cs
  | cs => readUnsigned false cs

/-! ## Values -/

/-- Drop a word at the front of a text. -/
def dropWord : List Char → List Char → Option (List Char)
  | [], cs => some cs
  | w :: word, c :: cs => if w = c then dropWord word cs else none
  | _ :: _, [] => none

mutual

/-- Read a value in at most `fuel` steps. -/
def readTree : Nat → List Char → Option (Tree × List Char)
  | 0, _ => none
  | fuel + 1, cs =>
    match skipSpace cs with
    | [] => none
    | c :: rest =>
      if c = 'n' then (dropWord ['u', 'l', 'l'] rest).map fun r => (.null, r)
      else if c = 't' then (dropWord ['r', 'u', 'e'] rest).map fun r => (.bool true, r)
      else if c = 'f' then (dropWord ['a', 'l', 's', 'e'] rest).map fun r => (.bool false, r)
      else if c = '"' then
        (readString rest).map fun r => (.string (joinString r.1), r.2)
      else if c = '[' then
        match skipSpace rest with
        | ']' :: rest => some (.array [], rest)
        | rest => (readItems fuel rest).map fun r => (.array r.1, r.2)
      else if c = '{' then
        match skipSpace rest with
        | '}' :: rest => some (.object [], rest)
        | rest => (readFields fuel rest).map fun r => (.object r.1, r.2)
      else (readNumeral (c :: rest)).map fun r => (.number r.1.value?, r.2)

/-- Read the values of an array up to its closing mark; there is at least one. -/
def readItems : Nat → List Char → Option (List Tree × List Char)
  | 0, _ => none
  | fuel + 1, cs =>
    match readTree fuel cs with
    | none => none
    | some (t, rest) =>
      match skipSpace rest with
      | ',' :: rest => (readItems fuel rest).map fun r => (t :: r.1, r.2)
      | ']' :: rest => some ([t], rest)
      | _ => none

/-- Read the fields of an object up to its closing mark; there is at least one. -/
def readFields : Nat → List Char → Option (List (Option String × Tree) × List Char)
  | 0, _ => none
  | fuel + 1, cs =>
    match skipSpace cs with
    | '"' :: rest =>
      match readString rest with
      | none => none
      | some (name, rest) =>
        match skipSpace rest with
        | ':' :: rest =>
          match readTree fuel rest with
          | none => none
          | some (t, rest) =>
            match skipSpace rest with
            | ',' :: rest =>
              (readFields fuel rest).map fun r => ((joinString name, t) :: r.1, r.2)
            | '}' :: rest => some ([(joinString name, t)], rest)
            | _ => none
        | _ => none
    | _ => none

end

/-- Read a document. -/
def Tree.parseChars (cs : List Char) : Option Tree :=
  match readTree (2 * cs.length + 1) cs with
  | some (t, rest) => if rest.all isSpace then some t else none
  | none => none

/-- Read a document. -/
def Tree.parse (s : String) : Option Tree :=
  Tree.parseChars s.toList

/-- How deep values may be nested in a text that is read as a value. -/
def maxDepth : Nat := 127

/-- Read a value. -/
def parse (s : String) : Option Json :=
  match Tree.parse s with
  | some t => t.value? maxDepth
  | none => none

end JobNode.Json
