import JobNode.Text.Basic
import JobNode.Text.Decimal

/-!
# Universally unique identifiers

An identifier is a number of 128 bits.  It is written as 32 lower-case hexadecimal digits in five
groups.  The reader also takes upper-case digits, the digits without hyphens, and the grouped form
in braces or behind the prefix `urn:uuid:`.
-/

namespace JobNode

/-- Number of identifiers of 128 bits. -/
def Uuid.count : Nat := 0x100000000000000000000000000000000

/-- An identifier of 128 bits. -/
structure Uuid where
  value : Nat
  value_lt : value < Uuid.count
  deriving DecidableEq

namespace Uuid

instance : Inhabited Uuid := ⟨⟨0, by decide⟩⟩

/-- The identifier with the low 128 bits of a number. -/
def ofNat (n : Nat) : Uuid := ⟨n % count, Nat.mod_lt _ (by decide)⟩

/-- The last `width` hexadecimal digits of a number. -/
def fixedHex : Nat → Nat → List Char
  | 0, _ => []
  | width + 1, n => fixedHex width (n / 16) ++ [Hex.digit (n % 16)]

/-- The lengths of the five groups. -/
def groupLengths : List Nat := [8, 4, 4, 4, 12]

/-- Digits in groups of the given lengths, a hyphen between two groups. -/
def group : List Nat → List Char → List Char
  | [], cs => cs
  | [_], cs => cs
  | n :: ns, cs => cs.take n ++ '-' :: group ns (cs.drop n)

/-- The written form of an identifier. -/
def toChars (u : Uuid) : List Char :=
  group groupLengths (fixedHex 32 u.value)

/-- The written form of an identifier. -/
def toText (u : Uuid) : String :=
  String.ofList u.toChars

/-! ## Reading -/

/-- Why a text is no identifier. -/
inductive ParseError where
  | badChar (c : Char) (position : Nat)
  | badLength (length : Nat)
  | badGroupCount (count : Nat)
  | badGroupLength (index expected length : Nat)
  deriving DecidableEq

/-- The message of the error. -/
def ParseError.message : ParseError → String
  | badChar c position =>
    "invalid character: found `" ++ c.toString ++ "` at " ++ Decimal.ofNat position
  | badLength length => "invalid length: found " ++ Decimal.ofNat length
  | badGroupCount count =>
    "invalid group count: expected 5, found " ++ Decimal.ofNat count
  | badGroupLength index expected length =>
    "invalid group length in group " ++ Decimal.ofNat index ++ ": expected "
      ++ Decimal.ofNat expected ++ ", found " ++ Decimal.ofNat length

/-- The identifier that 32 digits spell. -/
def ofDigits? (cs : List Char) : Option Uuid :=
  if cs.length = 32 then (Hex.number? cs).map ofNat else none

/-- Take the groups of the given lengths apart; none if a hyphen is not where it should be. -/
def ungroup? : List Nat → List Char → Option (List Char)
  | [], cs => if cs.isEmpty then some [] else none
  | [n], cs => if cs.length = n then some cs else none
  | n :: ns, cs =>
    match cs.drop n with
    | '-' :: rest => (ungroup? ns rest).map (cs.take n ++ ·)
    | _ => none

/-- The identifier that digits in five groups spell. -/
def ofGroups? (cs : List Char) : Option Uuid :=
  (ungroup? groupLengths cs).bind ofDigits?

/-- The prefix of the resource name of an identifier. -/
def urnPrefix : List Char := ['u', 'r', 'n', ':', 'u', 'u', 'i', 'd', ':']

/-- What the braces enclose. -/
def unbraced? (cs : List Char) : Option (List Char) :=
  match cs with
  | '{' :: rest => if rest.getLast? = some '}' then some rest.dropLast else none
  | _ => none

/-- The text after the prefix `urn:uuid:` in letters of either case. -/
def afterUrn? (cs : List Char) : Option (List Char) :=
  if (cs.take urnPrefix.length).map Char.toLower = urnPrefix then some (cs.drop urnPrefix.length)
  else none

/-- The identifier that a text spells in one of the accepted forms. -/
def ofChars? (cs : List Char) : Option Uuid :=
  match ofDigits? cs with
  | some u => some u
  | none =>
    match ofGroups? cs with
    | some u => some u
    | none =>
      match unbraced? cs with
      | some inner => ofGroups? inner
      | none => (afterUrn? cs).bind ofGroups?

/-- The first character that is neither digit nor hyphen, and its byte position. -/
def badChar? : Nat → List Char → Option (Char × Nat)
  | _, [] => none
  | position, c :: cs =>
    if c = '-' ∨ (Hex.digitValue? c).isSome then badChar? (position + c.utf8Size) cs
    else some (c, position)

/-- The first group before the last that has not its length: index, expected and found length. -/
def badGroup? : Nat → List Nat → List Char → Option (Nat × Nat × Nat)
  | index, n :: ns, cs =>
    let found := (cs.takeWhile (· != '-')).length
    if ns.isEmpty then none
    else if found = n then badGroup? (index + 1) ns (cs.drop (n + 1))
    else some (index, n, found)
  | _, [], _ => none

/-- The number of bytes of an identifier in five groups. -/
def groupedLength : Nat := 36

/-- The most bytes that an accepted form has. -/
def maxLength : Nat := groupedLength + urnPrefix.length

/-- The part of a text that is looked at for faults. -/
structure Suspect where
  digits : List Char
  /-- The position of the first of them. -/
  offset : Nat
  /-- Without hyphens the groups are missing, not the length is wrong. -/
  grouped : Bool

/-- The part of a text to look at for faults: what is inside braces or behind the prefix, counted
from the start of the text unless it has the length of an identifier itself. -/
def suspect (cs : List Char) : Suspect :=
  let length := Text.byteLength cs
  if length = 32 ∨ length = groupedLength then ⟨cs, 0, length = groupedLength⟩
  else
    let wrapped? :=
      match unbraced? cs with
      | some inner => some (inner, 1)
      | none => (afterUrn? cs).map fun inner => (inner, urnPrefix.length)
    match wrapped? with
    | some (inner, offset) => ⟨inner, if Text.byteLength inner = groupedLength then 0 else offset, true⟩
    | none => ⟨cs, 0, false⟩

/-- The fault of a text that spells no identifier. -/
def diagnose (cs : List Char) : ParseError :=
  let length := Text.byteLength cs
  if maxLength < length then .badLength length
  else
    let s := suspect cs
    match badChar? s.offset s.digits with
    | some (c, position) => .badChar c position
    | none =>
      let hyphens := s.digits.count '-'
      if hyphens = 0 ∧ ¬ s.grouped then .badLength length
      else if hyphens ≠ 4 then .badGroupCount (hyphens + 1)
      else
        match badGroup? 0 groupLengths s.digits with
        | some (index, expected, found) => .badGroupLength index expected found
        | none => .badGroupLength 4 12 (length - 24)

/-- Read an identifier. -/
def parse (s : String) : Except ParseError Uuid :=
  match ofChars? s.toList with
  | some u => .ok u
  | none => .error (diagnose s.toList)

end Uuid

end JobNode
