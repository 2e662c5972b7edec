import JobNode.Json.Encode
import JobNode.Queue.Error

/-!
# Task parameters

A task gets its input as a bag of named JSON values.  Typed access reports a missing or mistyped
parameter as a validation error of the queue.  The parameter `Timeout` carries a number of
nanoseconds by convention.

* `get_insert_of_ne` and its companions: an insertion is seen under its own name only.
-/

namespace JobNode

/-- A bag of named JSON values. -/
structure Params where
  values : Dict Json

namespace Params

open Json

/-- The name of the parameter that carries a timeout. -/
def timeoutName : String := "Timeout"

/-- The bag without parameters. -/
def empty : Params := ⟨.empty⟩

instance : Inhabited Params := ⟨empty⟩

/-- The bag with a value under a name, in place of the one it had. -/
def insert (p : Params) (name : String) (v : Json) : Params :=
  ⟨p.values.insert name v⟩

/-- The bag of a list of named values; of two with one name the later one counts. -/
def ofList (pairs : List (String × Json)) : Params :=
  ⟨Dict.ofList pairs⟩

/-- The value under a name. -/
def value? (p : Params) (name : String) : Option Json :=
  p.values.get? name

/-- There is a value under the name. -/
def contains (p : Params) (name : String) : Bool :=
  p.values.contains name

/-- Number of parameters. -/
def size (p : Params) : Nat := p.values.size

/-- The names in increasing order. -/
def names (p : Params) : List String := p.values.keys

/-- The bag with encoded data under a name. -/
def insertData (p : Params) (name : String) (d : Data) : Except QueueError Params :=
  match d.encode with
  | .ok v => .ok (p.insert name v)
  | .error e =>
    .error (.validation ("parameter '" ++ name ++ "' is not serializable: " ++ e.message))

/-- The nanoseconds of a timeout, cut to a 64-bit word. -/
def timeoutNanos (d : Duration) : Nat :=
  Nat.min d.nanos Duration.maxWord

/-- The bag with a timeout. -/
def withTimeout (p : Params) (d : Duration) : Params :=
  p.insert timeoutName (.nat (timeoutNanos d))

/-! ## Typed access -/

/-- The value under a name that has to be there. -/
def require (p : Params) (name : String) : Except QueueError Json :=
  match p.value? name with
  | some v => .ok v
  | none => .error (.validation ("missing parameter '" ++ name ++ "'"))

/-- The value under a name, decoded. -/
def get {α : Type} (p : Params) (name : String) (decode : Decoder α) : Except QueueError α :=
  match p.require name with
  | .error e => .error e
  | .ok v =>
    match decodeValue decode v with
    | .ok a => .ok a
    | .error e =>
      .error (.validation ("parameter '" ++ name ++ "' has unexpected type: " ++ e.message))

/-- The text under a name. -/
def text (p : Params) (name : String) : Except QueueError String :=
  match p.require name with
  | .error e => .error e
  | .ok (.string s) => .ok s
  | .ok _ => .error (.validation ("parameter '" ++ name ++ "' is not a string"))

/-- The number of nanoseconds that a value stands for; the fraction of a float is dropped. -/
def nanosOf : Json → Except String Nat
  | .number (.int n) =>
    if 0 ≤ n then .ok n.toNat else .error "must be a non-negative finite number"
  | .number (.float x) =>
    if x.isFinite ∧ (¬ x.isNegative ∨ x.isZero) then .ok (Nat.min x.truncate Duration.maxWord)
    else .error "must be a non-negative finite number"
  | _ => .error "is not a number of nanoseconds"

/-- The duration under a name, given as a number of nanoseconds. -/
def duration (p : Params) (name : String) : Except QueueError Duration :=
  match p.require name with
  | .error e => .error e
  | .ok v =>
    match nanosOf v with
    | .ok n => .ok (.saturating n)
    | .error reason => .error (.validation ("parameter '" ++ name ++ "' " ++ reason))

/-- The timeout, if the bag has one. -/
def timeout (p : Params) : Except QueueError (Option Duration) :=
  if p.contains timeoutName then (p.duration timeoutName).map some else .ok none

/-! ## JSON form -/

/-- The bag as an object. -/
def toJson (p : Params) : Json := .object p.values.entries

/-- A bag inside a document nested at most `depth` deep. -/
def decodeAt (depth : Nat) : Decoder Params := fun t =>
  match depth with
  | 0 => .error .malformed
  | depth + 1 => (Decode.dict (Decode.value depth) t).map Params.mk

/-- A bag. -/
def decode : Decoder Params := decodeAt Json.maxDepth

/-- Read a bag from JSON text. -/
def parse (s : String) : Except DecodeError Params := decodeText decode s

/-- The bags have the same parameters with equal values. -/
def same (p q : Params) : Bool := p.toJson.same q.toJson

/-! ## Laws -/

@[simp]
theorem value?_insert_self (p : Params) (name : String) (v : Json) :
    (p.insert name v).value? name = some v :=
  Dict.get?_insert_self p.values name v

theorem value?_insert_of_ne (p : Params) {name other : String} (ne : other ≠ name) (v : Json) :
    (p.insert name v).value? other = p.value? other :=
  Dict.get?_insert_of_ne p.values ne v

theorem require_insert_of_ne (p : Params) {name other : String} (ne : other ≠ name) (v : Json) :
    (p.insert name v).require other = p.require other := by
  simp [require, value?_insert_of_ne p ne v]

theorem get_insert_of_ne {α : Type} (p : Params) {name other : String} (ne : other ≠ name)
    (v : Json) (decode : Decoder α) : (p.insert name v).get other decode = p.get other decode := by
  simp [get, require_insert_of_ne p ne v]

theorem text_insert_of_ne (p : Params) {name other : String} (ne : other ≠ name) (v : Json) :
    (p.insert name v).text other = p.text other := by
  simp [text, require_insert_of_ne p ne v]

theorem duration_insert_of_ne (p : Params) {name other : String} (ne : other ≠ name) (v : Json) :
    (p.insert name v).duration other = p.duration other := by
  simp [duration, require_insert_of_ne p ne v]

end Params

end JobNode
