import JobNode.Dict
import JobNode.Binary64.Text

/-!
# JSON values

`Json` is a JSON value: integers between `-2⁶³` and `2⁶⁴ - 1` are kept apart from floating-point
numbers, and the fields of an object are in increasing order of their names.

`Json.Tree` is a JSON document as written, before anyone asks what it means.  A part of the document
that nobody reads may hold a number no float can hold or half of a surrogate pair; the tree keeps
the place and leaves out the value.
-/

namespace JobNode

namespace Json

/-- A JSON number. -/
inductive Number where
  | int (n : Int)
  | float (x : Binary64)
  deriving DecidableEq

namespace Number

/-- The integers that a JSON number holds exactly. -/
def InRange (n : Int) : Prop :=
  -9223372036854775808 ≤ n ∧ n ≤ 18446744073709551615

instance (n : Int) : Decidable (InRange n) := inferInstanceAs (Decidable (_ ∧ _))

/-- The number nearest to it in floating point. -/
def toBinary64 : Number → Binary64
  | int n => .ofInt n
  | float x => x

/-- Equality of numbers of one kind; the two zeros of floating point are equal. -/
def same : Number → Number → Bool
  | int a, int b => a == b
  | float x, float y => x.same y
  | _, _ => false

end Number

end Json

/-- A JSON value. -/
inductive Json where
  | null
  | bool (b : Bool)
  | number (n : Json.Number)
  | string (s : String)
  | array (items : List Json)
  | object (fields : List (String × Json))

namespace Json

instance : Inhabited Json := ⟨null⟩

/-- A JSON document as written. -/
inductive Tree where
  | null
  | bool (b : Bool)
  /-- A number; none if no float can hold it. -/
  | number (n? : Option Number)
  /-- A string; none if it holds half of a surrogate pair. -/
  | string (s? : Option String)
  | array (items : List Tree)
  | object (fields : List (Option String × Tree))

instance : Inhabited Tree := ⟨.null⟩

/-- An integer. -/
def int (n : Int) : Json := number (.int n)

/-- A natural number. -/
def nat (n : Nat) : Json := number (.int n)

/-- The fields in increasing order of their names. -/
def ofFields (fields : List (String × Json)) : Json :=
  object (fields.foldl (fun out f => Dict.insertEntry f.1 f.2 out) [])

/-- The value of a field. -/
def field? : Json → String → Option Json
  | object fields, name => Dict.lookupEntry name fields
  | _, _ => none

mutual

/-- Equality of values; the two zeros of floating point are equal. -/
def same : Json → Json → Bool
  | null, null => true
  | bool a, bool b => a == b
  | number a, number b => a.same b
  | string a, string b => a == b
  | array a, array b => sameItems a b
  | object a, object b => sameFields a b
  | _, _ => false

/-- Equality of lists of values. -/
def sameItems : List Json → List Json → Bool
  | [], [] => true
  | a :: as, b :: bs => same a b && sameItems as bs
  | _, _ => false

/-- Equality of lists of fields. -/
def sameFields : List (String × Json) → List (String × Json) → Bool
  | [], [] => true
  | (j, a) :: as, (k, b) :: bs => j == k && same a b && sameFields as bs
  | _, _ => false

end

mutual

/-- The document that a value is. -/
def toTree : Json → Tree
  | null => .null
  | bool b => .bool b
  | number n => .number (some n)
  | string s => .string (some s)
  | array items => .array (treesOfItems items)
  | object fields => .object (treesOfFields fields)

/-- The documents that values are. -/
def treesOfItems : List Json → List Tree
  | [] => []
  | v :: rest => toTree v :: treesOfItems rest

/-- The documents that the values of fields are. -/
def treesOfFields : List (String × Json) → List (Option String × Tree)
  | [] => []
  | (name, v) :: rest => (some name, toTree v) :: treesOfFields rest

end

mutual

/-- The value of a document nested at most `depth` deep.  Of two fields with one name the later
one counts. -/
def Tree.value? (depth : Nat) : Tree → Option Json
  | .null => some Json.null
  | .bool b => some (Json.bool b)
  | .number n? => n?.map Json.number
  | .string s? => s?.map Json.string
  | .array items =>
    match depth with
    | 0 => none
    | depth + 1 => (Tree.items? depth items).map Json.array
  | .object fields =>
    match depth with
    | 0 => none
    | depth + 1 => (Tree.fields? depth [] fields).map Json.object

/-- The values of documents. -/
def Tree.items? (depth : Nat) : List Tree → Option (List Json)
  | [] => some []
  | t :: rest =>
    match Tree.value? depth t, Tree.items? depth rest with
    | some v, some vs => some (v :: vs)
    | _, _ => none

/-- The fields of an object, put into their places one by one. -/
def Tree.fields? (depth : Nat) (out : List (String × Json)) :
    List (Option String × Tree) → Option (List (String × Json))
  | [] => some out
  | (name?, t) :: rest =>
    match name?, Tree.value? depth t with
    | some name, some v => Tree.fields? depth (Dict.insertEntry name v out) rest
    | _, _ => none

end

end Json

end JobNode
