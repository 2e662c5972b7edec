import JobNode.Json.Decode

/-!
# Encoding data as JSON values

Not all data has a JSON form.  Numbers beyond 64 bits have none, and neither have maps with keys
other than text and integers.  A float that is not finite is written as null.
-/

namespace JobNode.Json

/-- A key of a map. -/
inductive DataKey where
  | text (s : String)
  | integer (n : Int)
  /-- A key made of several parts. -/
  | compound
  deriving DecidableEq

/-- Data as a program holds it. -/
inductive Data where
  | unit
  | bool (b : Bool)
  | integer (n : Int)
  | float (x : Binary64)
  | string (s : String)
  | bytes (bs : List UInt8)
  | list (items : List Data)
  | map (entries : List (DataKey × Data))

/-- Why data has no JSON form. -/
inductive EncodeError where
  | keyNotText
  | numberOutOfRange
  deriving DecidableEq

/-- The message of the error. -/
def EncodeError.message : EncodeError → String
  | keyNotText => "key must be a string"
  | numberOutOfRange => "number out of range"

/-- The name of the field that a map entry becomes. -/
def DataKey.fieldName : DataKey → Except EncodeError String
  | text s => .ok s
  | integer n => .ok (Decimal.ofInt n)
  | compound => .error .keyNotText

/-- A float, or null in place of one that is not finite. -/
def ofBinary64 (x : Binary64) : Json :=
  if x.isFinite then .number (.float x) else .null

mutual

/-- The JSON form of data. -/
def Data.encode : Data → Except EncodeError Json
  | .unit => .ok .null
  | .bool b => .ok (.bool b)
  | .integer n => if Number.InRange n then .ok (Json.int n) else .error .numberOutOfRange
  | .float x => .ok (ofBinary64 x)
  | .string s => .ok (.string s)
  | .bytes bs => .ok (.array (bs.map fun b => Json.nat b.toNat))
  | .list items =>
    match Data.encodeItems items with
    | .ok vs => .ok (.array vs)
    | .error e => .error e
  | .map entries => Data.encodeEntries [] entries

/-- The JSON forms of the items of a list. -/
def Data.encodeItems : List Data → Except EncodeError (List Json)
  | [] => .ok []
  | d :: rest =>
    match Data.encode d with
    | .error e => .error e
    | .ok v =>
      match Data.encodeItems rest with
      | .error e => .error e
      | .ok vs => .ok (v :: vs)

/-- The object that the entries of a map become. -/
def Data.encodeEntries (out : List (String × Json)) :
    List (DataKey × Data) → Except EncodeError Json
  | [] => .ok (.object out)
  | (key, d) :: rest =>
    match key.fieldName with
    | .error e => .error e
    | .ok name =>
      match Data.encode d with
      | .error e => .error e
      | .ok v => Data.encodeEntries (Dict.insertEntry name v out) rest

end

end JobNode.Json
