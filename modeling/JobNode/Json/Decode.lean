import JobNode.Duration.Basic
import JobNode.Json.Reader
import JobNode.Text.Quoted

/-!
# Decoding JSON documents

A `Decoder α` takes a document to a value of `α` or says why there is none.  Records are read from
objects, whose unknown fields are passed over, and from arrays, whose items are the fields in order
of declaration.  The fields of a value are looked at in increasing order of their names, and then
asked for in order of declaration; this decides which of two faults is reported.
-/

namespace JobNode.Json

/-- What a decoder found in place of what it expected. -/
inductive Found where
  | null
  | boolean (b : Bool)
  | integer (n : Int)
  | float (x : Binary64)
  | string (s : String)
  | sequence
  | map
  deriving DecidableEq

/-- Why a document is refused. -/
inductive DecodeError where
  | invalidType (found : Found) (expected : String)
  | invalidValue (found : Found) (expected : String)
  | invalidLength (n : Nat) (expected : String)
  | unknownVariant (name : String) (expected : List String)
  | unknownField (name : String) (expected : List String)
  | missingField (name : String)
  | duplicateField (name : String)
  /-- The type that was read refuses the value for a reason of its own. -/
  | refused (reason : String)
  /-- The text is no JSON document, or a part that is read has no value. -/
  | malformed
  deriving DecidableEq

/-- What was found, in words. -/
def Found.text : Found → String
  | null => "null"
  | boolean b => "boolean `" ++ (if b then "true" else "false") ++ "`"
  | integer n => "integer `" ++ Decimal.ofInt n ++ "`"
  | float x => "floating point `" ++ x.toText ++ "`"
  | string s => "string " ++ Text.quoted s
  | sequence => "sequence"
  | map => "map"

/-- A choice of names, in words. -/
def choiceText : List String → String
  | [] => "there are no variants"
  | [a] => "expected `" ++ a ++ "`"
  | [a, b] => "expected `" ++ a ++ "` or `" ++ b ++ "`"
  | names => "expected one of " ++ String.intercalate ", " (names.map fun n => "`" ++ n ++ "`")

namespace DecodeError

/-- The message of the error. -/
def message : DecodeError → String
  | invalidType found expected => "invalid type: " ++ found.text ++ ", expected " ++ expected
  | invalidValue found expected => "invalid value: " ++ found.text ++ ", expected " ++ expected
  | invalidLength n expected =>
    "invalid length " ++ Decimal.ofNat n ++ ", expected " ++ expected
  | unknownVariant name expected =>
    "unknown variant `" ++ name ++ "`, " ++ choiceText expected
  | unknownField name expected => "unknown field `" ++ name ++ "`, " ++ choiceText expected
  | missingField name => "missing field `" ++ name ++ "`"
  | duplicateField name => "duplicate field `" ++ name ++ "`"
  | refused reason => reason
  | malformed => "malformed JSON"

end DecodeError

/-- A reader of documents. -/
abbrev Decoder (α : Type) := Tree → Except DecodeError α

/-- The document is not of the kind that was expected. -/
def Tree.mismatch {α : Type} (expected : String) : Decoder α
  | .null => .error (.invalidType .null expected)
  | .bool b => .error (.invalidType (.boolean b) expected)
  | .number (some (.int n)) => .error (.invalidType (.integer n) expected)
  | .number (some (.float x)) => .error (.invalidType (.float x) expected)
  | .string (some s) => .error (.invalidType (.string s) expected)
  | .number none => .error .malformed
  | .string none => .error .malformed
  | .array _ => .error (.invalidType .sequence expected)
  | .object _ => .error (.invalidType .map expected)

namespace Decode

/-! ## Plain values -/

/-- A string. -/
def string : Decoder String
  | .string (some s) => .ok s
  | t => t.mismatch "a string"

/-- A truth value. -/
def boolean : Decoder Bool
  | .bool b => .ok b
  | t => t.mismatch "a boolean"

/-- A string of one character. -/
def character : Decoder Char
  | .string (some s) =>
    match s.toList with
    | [c] => .ok c
    | _ => .error (.invalidValue (.string s) "a character")
  | t => t.mismatch "a character"

/-- Null. -/
def unit : Decoder Unit
  | .null => .ok ()
  | t => t.mismatch "unit"

/-- An integer between two bounds, under the name of its type. -/
def integer (name : String) (low high : Int) : Decoder Int
  | .number (some (.int n)) =>
    if low ≤ n ∧ n ≤ high then .ok n else .error (.invalidValue (.integer n) name)
  | t => t.mismatch name

/-- A natural number up to a bound, under the name of its type. -/
def natural (name : String) (high : Nat) : Decoder Nat := fun t =>
  (integer name 0 high t).map Int.toNat

/-- A 64-bit word. -/
def word64 : Decoder Nat := natural "u64" 18446744073709551615

/-- A 64-bit word that counts something. -/
def count : Decoder Nat := natural "usize" 18446744073709551615

/-- A 32-bit word. -/
def word32 : Decoder Nat := natural "u32" 4294967295

/-- An 8-bit word. -/
def word8 : Decoder Nat := natural "u8" 255

/-- A signed 64-bit word. -/
def signed64 : Decoder Int := integer "i64" (-9223372036854775808) 9223372036854775807

/-- A signed 32-bit word. -/
def signed32 : Decoder Int := integer "i32" (-2147483648) 2147483647

/-- A floating-point number; an integer becomes the nearest one. -/
def float : Decoder Binary64
  | .number (some n) => .ok n.toBinary64
  | t => t.mismatch "f64"

/-- A value of any kind, nested at most `depth` deep. -/
def value (depth : Nat) : Decoder Json := fun t =>
  match t.value? depth with
  | some v => .ok v
  | none => .error .malformed

/-! ## Structured values -/

/-- A value or null. -/
def optional {α : Type} (decode : Decoder α) : Decoder (Option α)
  | .null => .ok none
  | t => (decode t).map some

/-- The items of a list, in order. -/
def items {α : Type} (decode : Decoder α) : List Tree → Except DecodeError (List α)
  | [] => .ok []
  | t :: rest => do
    let a ← decode t
    let as ← items decode rest
    .ok (a :: as)

/-- A list. -/
def list {α : Type} (decode : Decoder α) : Decoder (List α)
  | .array ts => items decode ts
  | t => t.mismatch "a sequence"

/-- Put the fields of an object into a dictionary one by one. -/
def entries {α : Type} (decode : Decoder α) (d : Dict α) :
    List (Option String × Tree) → Except DecodeError (Dict α)
  | [] => .ok d
  | (none, _) :: _ => .error .malformed
  | (some name, t) :: rest => do
    let a ← decode t
    entries decode (d.insert name a) rest

/-- A dictionary; of two fields with one name the later one counts. -/
def dict {α : Type} (decode : Decoder α) : Decoder (Dict α)
  | .object fields => entries decode .empty fields
  | t => t.mismatch "a map"

/-- A pair, written as an array of two. -/
def pair {α β : Type} (first : Decoder α) (second : Decoder β) : Decoder (α × β)
  | .array ts => do
    match ts with
    | [] => .error (.invalidLength 0 "a tuple of size 2")
    | [t] => do
      let _ ← first t
      .error (.invalidLength 1 "a tuple of size 2")
    | t :: u :: rest => do
      let a ← first t
      let b ← second u
      if rest.isEmpty then .ok (a, b)
      else .error (.invalidLength ts.length "fewer elements in array")
  | t => t.mismatch "a tuple of size 2"

/-- A choice among named variants: the name, or an object whose one field has that name and is
null. -/
def variant {α : Type} (names : List String) (ofName? : String → Option α) : Decoder α
  | .string (some name) => pick name
  | .object [(some name, t)] => do
    let a ← pick name
    let _ ← unit t
    .ok a
  | .object _ => .error (.invalidValue .map "map with a single key")
  | t => t.mismatch "string or map"
where
  /-- The variant of a name. -/
  pick (name : String) : Except DecodeError α :=
    match ofName? name with
    | some a => .ok a
    | none => .error (.unknownVariant name names)

/-- A string that a parser of the type accepts. -/
def parsed {α : Type} (parse : String → Except String α) : Decoder α := fun t => do
  let s ← string t
  match parse s with
  | .ok a => .ok a
  | .error reason => .error (.refused reason)

/-! ## Records -/

/-- The fields of a record that are known by name, each at most once. -/
abbrev Fields := List (String × Tree)

/-- Keep the fields with known names. -/
def knownFields (names : List String) :
    Fields → List (Option String × Tree) → Except DecodeError Fields
  | kept, [] => .ok kept
  | _, (none, _) :: _ => .error .malformed
  | kept, (some name, t) :: rest =>
    if names.contains name then
      if (Dict.lookupEntry name kept).isSome then .error (.duplicateField name)
      else knownFields names (kept ++ [(name, t)]) rest
    else knownFields names kept rest

/-- The value of a field that may be absent. -/
def field? {α : Type} (fields : Fields) (name : String) (decode : Decoder α) :
    Except DecodeError (Option α) :=
  match Dict.lookupEntry name fields with
  | some t => (decode t).map some
  | none => .ok none

/-- The value of a field that has to be there. -/
def require {α : Type} (name : String) : Option α → Except DecodeError α
  | some a => .ok a
  | none => .error (.missingField name)

/-- A record of the given type name and number of fields: from an object through `ofFields`, from
an array through `ofItems`. -/
def record {α : Type} (name : String) (names : List String)
    (ofFields : Fields → Except DecodeError α) (ofItems : List Tree → Except DecodeError α) :
    Decoder α
  | .object fields => do
    let known ← knownFields names [] fields
    ofFields known
  | .array ts => do
    let a ← ofItems ts
    if ts.length ≤ names.length then .ok a
    else .error (.invalidLength ts.length "fewer elements in array")
  | t => t.mismatch ("struct " ++ name)

/-- The item of an array that stands for a field of what was expected. -/
def itemOf {α : Type} (expected : String) (ts : List Tree) (i : Nat) (decode : Decoder α) :
    Except DecodeError α :=
  match ts[i]? with
  | some t => decode t
  | none => .error (.invalidLength i expected)

/-- The item of an array that stands for a field of a record. -/
def item {α : Type} (name : String) (size : Nat) (ts : List Tree) (i : Nat) (decode : Decoder α) :
    Except DecodeError α :=
  itemOf ("struct " ++ name ++ " with " ++ Decimal.ofNat size ++
    (if size = 1 then " element" else " elements")) ts i decode

/-- The item of an array that stands for a field with a default. -/
def itemOr {α : Type} (fallback : α) (ts : List Tree) (i : Nat) (decode : Decoder α) :
    Except DecodeError α :=
  match ts[i]? with
  | some t => decode t
  | none => .ok fallback

/-! ## Durations -/

/-- A duration of whole seconds and nanoseconds. -/
def durationOfParts (secs nanos : Nat) : Except DecodeError Duration :=
  match Duration.ofNanos? (secs * Duration.nanosPerSecond + nanos) with
  | some d => .ok d
  | none => .error (.refused "overflow deserializing Duration")

/-- The two fields of a duration, looked at in the order they are written in. -/
def durationFields (secs nanos : Option Nat) :
    List (Option String × Tree) → Except DecodeError Duration
  | [] => do
    let secs ← require "secs" secs
    let nanos ← require "nanos" nanos
    durationOfParts secs nanos
  | (name?, t) :: rest =>
    match name? with
    | none => .error .malformed
    | some name =>
      if name = "secs" then
        if secs.isSome then .error (.duplicateField "secs")
        else
          match word64 t with
          | .ok n => durationFields (some n) nanos rest
          | .error e => .error e
      else if name = "nanos" then
        if nanos.isSome then .error (.duplicateField "nanos")
        else
          match word32 t with
          | .ok n => durationFields secs (some n) rest
          | .error e => .error e
      else .error (.unknownField name ["secs", "nanos"])

/-- A duration, written as a record of seconds and nanoseconds.  No other field is allowed. -/
def duration : Decoder Duration
  | .object fields => durationFields none none fields
  | .array ts => do
    let secs ← itemOf "struct Duration" ts 0 word64
    let nanos ← itemOf "struct Duration" ts 1 word32
    let d ← durationOfParts secs nanos
    if ts.length ≤ 2 then .ok d
    else .error (.invalidLength ts.length "fewer elements in array")
  | t => t.mismatch "struct Duration"

end Decode

/-- Decode the text of a document. -/
def decodeText {α : Type} (decode : Decoder α) (s : String) : Except DecodeError α :=
  match Tree.parse s with
  | some t => decode t
  | none => .error .malformed

/-- Decode a value. -/
def decodeValue {α : Type} (decode : Decoder α) (v : Json) : Except DecodeError α :=
  decode v.toTree

/-- A duration as a record of seconds and nanoseconds. -/
def ofDuration (d : Duration) : Json :=
  .ofFields [("secs", .nat d.secs), ("nanos", .nat d.subsecNanos)]

/-- A string or null. -/
def ofOption {α : Type} (encode : α → Json) : Option α → Json
  | some a => encode a
  | none => .null

/-- A dictionary as an object. -/
def ofDict {α : Type} (encode : α → Json) (d : Dict α) : Json :=
  .object (d.entries.map fun e => (e.1, encode e.2))

end JobNode.Json
