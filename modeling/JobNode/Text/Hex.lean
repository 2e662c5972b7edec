import JobNode.Text.Basic
import JobNode.Text.Quoted

/-!
# Hexadecimal text of bytes

`encode` writes two lower-case digits a byte, the high half first; `decode` accepts either case.
A text of odd byte length is refused before any digit is looked at, and otherwise the first
character that is no digit is reported with its byte position.
-/

namespace JobNode.Hex

/-- The two digits of a byte. -/
def encodeByte (b : UInt8) : List Char :=
  [digit (b.toNat / 16), digit (b.toNat % 16)]

/-- The digits of a string of bytes. -/
def encodeChars (bytes : List UInt8) : List Char :=
  bytes.flatMap encodeByte

/-- The digits of a string of bytes. -/
def encode (bytes : List UInt8) : String :=
  String.ofList (encodeChars bytes)

/-- Why a text is no hexadecimal text of bytes. -/
inductive DecodeError where
  | oddLength
  | invalidDigit (byte : UInt8) (position : Nat)
  deriving Repr, DecidableEq

namespace DecodeError

/-- The message of the error; the offending byte is shown as the character with its number. -/
def message : DecodeError → String
  | oddLength => "Odd number of digits"
  | invalidDigit byte position =>
    "Invalid character " ++ Text.quotedChar (Char.ofNat byte.toNat) ++ " at position "
      ++ toString position

end DecodeError

/-- Number of bytes of the text in UTF-8. -/
def byteLength (cs : List Char) : Nat :=
  cs.foldl (fun n c => n + c.utf8Size) 0

/-- The first byte of a character in UTF-8. -/
def leadByte (c : Char) : UInt8 :=
  let n := c.toNat
  if n < 128 then n.toUInt8
  else if n < 2048 then (192 + n / 64).toUInt8
  else if n < 65536 then (224 + n / 4096).toUInt8
  else (240 + n / 262144).toUInt8

/-- Read digits two by two; `position` counts the bytes read so far. -/
def decodePairs (position : Nat) : List Char → Except DecodeError (List UInt8)
  | [] => .ok []
  | [c] => .error (.invalidDigit (leadByte c) position)
  | a :: b :: rest =>
    match digitValue? a, digitValue? b with
    | none, _ => .error (.invalidDigit (leadByte a) position)
    | some _, none => .error (.invalidDigit (leadByte b) (position + 1))
    | some hi, some lo =>
      match decodePairs (position + 2) rest with
      | .ok bytes => .ok ((16 * hi + lo).toUInt8 :: bytes)
      | .error e => .error e

/-- Read the bytes that the digits spell. -/
def decodeChars (cs : List Char) : Except DecodeError (List UInt8) :=
  if byteLength cs % 2 = 1 then .error .oddLength else decodePairs 0 cs

/-- Read the bytes that a text spells. -/
def decode (s : String) : Except DecodeError (List UInt8) :=
  decodeChars s.toList

end JobNode.Hex
