import JobNode.Text.Basic
import JobNode.Text.Decimal

/-!
# Percent encoding

Bytes that an address cannot hold are written as `%` and two hexadecimal digits.
-/

namespace JobNode.Text

/-- The bytes of a text in UTF-8. -/
def utf8 (cs : List Char) : List UInt8 :=
  (String.ofList cs).toUTF8.toList

/-- The text that bytes spell in UTF-8. -/
def ofUtf8? (bytes : List UInt8) : Option String :=
  String.fromUTF8? ⟨bytes.toArray⟩

/-- One byte as `%` and two upper-case digits. -/
def percentByte (b : UInt8) : List Char :=
  ['%', (Hex.digit (b.toNat / 16)).toUpper, (Hex.digit (b.toNat % 16)).toUpper]

/-- A control character is percent-encoded everywhere. -/
def isControl (c : Char) : Bool := c.toNat < 32

/-- Write the ASCII characters that `escaped` holds of, and all others beyond ASCII, by their
bytes. -/
def percentEncode (escaped : Char → Bool) (cs : List Char) : List Char :=
  cs.flatMap fun c => if escaped c || 127 ≤ c.toNat then (utf8 [c]).flatMap percentByte else [c]

/-- Replace each `%` that two hexadecimal digits follow, and them, by the byte they spell. -/
def percentDecode : List UInt8 → List UInt8
  | [] => []
  | [b] => [b]
  | [b, c] => [b, c]
  | b :: c :: d :: rest =>
    if b = 37 then
      match Hex.digitValue? (Char.ofNat c.toNat), Hex.digitValue? (Char.ofNat d.toNat) with
      | some high, some low => (16 * high + low).toUInt8 :: percentDecode rest
      | _, _ => b :: percentDecode (c :: d :: rest)
    else b :: percentDecode (c :: d :: rest)

/-- Where bytes stop being UTF-8. -/
structure Utf8Fault where
  position : Nat
  /-- Number of bytes that make no character; none if the text ends inside one. -/
  length : Option Nat
  deriving DecidableEq

/-- The message of the fault. -/
def Utf8Fault.message (f : Utf8Fault) : String :=
  match f.length with
  | some n =>
    "invalid utf-8 sequence of " ++ Decimal.ofNat n ++ " bytes from index "
      ++ Decimal.ofNat f.position
  | none => "incomplete utf-8 byte sequence from index " ++ Decimal.ofNat f.position

/-- The ranges of the bytes that have to follow a first byte; none if no character starts so. -/
def followRanges? (b : UInt8) : Option (List (Nat × Nat)) :=
  let n := b.toNat
  let any := (128, 191)
  if n < 128 then some []
  else if 194 ≤ n ∧ n ≤ 223 then some [any]
  else if n = 224 then some [(160, 191), any]
  else if n = 237 then some [(128, 159), any]
  else if 225 ≤ n ∧ n ≤ 239 then some [any, any]
  else if n = 240 then some [(144, 191), any, any]
  else if 241 ≤ n ∧ n ≤ 243 then some [any, any, any]
  else if n = 244 then some [(128, 143), any, any]
  else none

/-- The first fault of bytes at a position.  `expected` are the ranges that the next bytes have to
lie in, and `held` is the number of bytes that the current character has so far. -/
def utf8FaultFrom (position held : Nat) (expected : List (Nat × Nat)) :
    List UInt8 → Option Utf8Fault
  | [] => if expected.isEmpty then none else some ⟨position, none⟩
  | b :: rest =>
    match expected with
    | (low, high) :: expected =>
      if low ≤ b.toNat ∧ b.toNat ≤ high then
        match expected with
        | [] => utf8FaultFrom (position + held + 1) 0 [] rest
        | expected => utf8FaultFrom position (held + 1) expected rest
      else some ⟨position, some held⟩
    | [] =>
      match followRanges? b with
      | none => some ⟨position, some 1⟩
      | some [] => utf8FaultFrom (position + 1) 0 [] rest
      | some expected => utf8FaultFrom position 1 expected rest

/-- The first fault of bytes that are no UTF-8. -/
def utf8Fault? (bytes : List UInt8) : Option Utf8Fault := utf8FaultFrom 0 0 [] bytes

/-- The text that bytes spell in UTF-8, with a replacement mark for each of the first `fuel` faults
and what comes after the last of them left out. -/
def replaceFaults : Nat → List UInt8 → String
  | 0, _ => ""
  | fuel + 1, bytes =>
    match utf8Fault? bytes with
    | none => (ofUtf8? bytes).getD ""
    | some fault =>
      let before := (ofUtf8? (bytes.take fault.position)).getD ""
      match fault.length with
      | some n => before ++ "\ufffd" ++ replaceFaults fuel (bytes.drop (fault.position + n))
      | none => before ++ "\ufffd"

/-- The text that bytes spell in UTF-8, with a replacement mark for each fault. -/
def ofUtf8Lossy (bytes : List UInt8) : String := replaceFaults (bytes.length + 1) bytes

end JobNode.Text
