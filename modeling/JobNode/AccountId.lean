import JobNode.Text.Decimal
import JobNode.Text.Hex

/-!
# Account identifiers

The account that owns a job is named by 20 bytes, written as 40 lower-case hexadecimal digits after
`0x`.  The reader takes digits of either case, and the prefix may be `0X` or missing.  Identifiers
are ordered by their bytes, which is the order of their written forms.
-/

namespace JobNode

/-- The name of an account. -/
structure AccountId where
  bytes : List UInt8
  length_eq : bytes.length = 20
  deriving DecidableEq

namespace AccountId

/-- Number of bytes. -/
abbrev size : Nat := 20

/-- The identifier with the given bytes, if there are 20 of them. -/
def ofBytes? (bytes : List UInt8) : Option AccountId :=
  if h : bytes.length = size then some ⟨bytes, h⟩ else none

/-- The identifier of zeros. -/
def zero : AccountId := ⟨List.replicate size 0, rfl⟩

instance : Inhabited AccountId := ⟨zero⟩

/-- The written form. -/
def toText (a : AccountId) : String :=
  "0x" ++ Hex.encode a.bytes

/-- Earlier in the order of bytes. -/
def lt (a b : AccountId) : Bool :=
  List.lex a.bytes b.bytes (fun x y => x.toNat < y.toNat)

/-- Why a text names no account; both cases keep the text. -/
inductive ParseError where
  | notHex (text : String) (cause : Hex.DecodeError)
  | badLength (text : String) (length : Nat)
  deriving DecidableEq

/-- The message of the error. -/
def ParseError.message : ParseError → String
  | notHex text cause => "invalid account id '" ++ text ++ "': " ++ cause.message
  | badLength text length =>
    "invalid account id '" ++ text ++ "': expected " ++ Decimal.ofNat size ++ " bytes, got "
      ++ Decimal.ofNat length

/-- The text after the prefix `0x` or `0X`, if it has one. -/
def dropMark : List Char → List Char
  | '0' :: 'x' :: rest => rest
  | '0' :: 'X' :: rest => rest
  | cs => cs

/-- Read an account identifier. -/
def parse (s : String) : Except ParseError AccountId :=
  match Hex.decodeChars (dropMark s.toList) with
  | .error cause => .error (.notHex s cause)
  | .ok bytes =>
    if h : bytes.length = size then .ok ⟨bytes, h⟩ else .error (.badLength s bytes.length)

end AccountId

end JobNode
