import JobNode.Binary64.Text
import JobNode.Log.Pattern
import JobNode.Text.Basic

/-!
# Log filters

A filter says for each target up to which level its records are shown.  It is written as directives
between commas: a level, a target, or a target, `=` and a level; a target may name a span in
brackets, and a field of the span in braces, with the value that the field is to have.  A target
alone shows everything.

A filter holds at most one directive for each target, span and field, the most specific first, so a
filter is shown the same way however it was written.
-/

namespace JobNode.Log

/-- Up to where records are shown. -/
inductive Level where
  | off
  | error
  | warn
  | info
  | debug
  | trace
  deriving DecidableEq, Repr, Inhabited

namespace Level

/-- All of them, in the order of their numbers. -/
def all : List Level := [off, error, warn, info, debug, trace]

/-- The name of a level. -/
def toText : Level → String
  | off => "off"
  | error => "error"
  | warn => "warn"
  | info => "info"
  | debug => "debug"
  | trace => "trace"

/-- The level with a number or a name in letters of either case. -/
def ofText? (s : String) : Option Level :=
  match (Decimal.number? s).bind fun n => all[n]? with
  | some level => some level
  | none => if s.isEmpty then some error else all.find? fun l => l.toText == Text.lowerAscii s

end Level

/-- Why a directive is refused. -/
inductive FilterError where
  | badDirective
  | badLevel
  /-- The pattern of a field cannot be used. -/
  | badPattern (fault : Pattern.Fault)
  deriving DecidableEq

/-- The message of the error. -/
def FilterError.message : FilterError → String
  | badDirective => "invalid filter directive"
  | badLevel =>
    "error parsing level filter: expected one of \"off\", \"error\", \"warn\", \"info\", " ++
      "\"debug\", \"trace\", or a number 0-5"
  | badPattern fault => "invalid field filter: " ++ fault.message

/-- The value that a field is to have. -/
inductive FieldValue where
  | bool (b : Bool)
  | float (x : Binary64)
  | notNumber
  | natural (n : Nat)
  | integer (n : Int)
  | pattern (cs : List Char)
  deriving DecidableEq

namespace FieldValue

/-- The integer of 64 bits that a minus sign and digits spell. -/
def negative? : List Char → Option Int
  | '-' :: digits =>
    if digits ≠ [] ∧ digits.all Decimal.isDigit ∧
        Decimal.ofDigits digits ≤ 9223372036854775808 then some (-(Decimal.ofDigits digits : Int))
    else none
  | _ => none

/-- The value that characters spell: a truth value, an integer of 64 bits, another number, or else
a pattern. -/
def ofChars (cs : List Char) : Except FilterError FieldValue :=
  let s := String.ofList cs
  if s = "true" then .ok (bool true)
  else if s = "false" then .ok (bool false)
  else
    match (Decimal.number? s).filter (· ≤ 18446744073709551615), negative? cs,
      Binary64.read? cs with
    | some n, _, _ => .ok (natural n)
    | none, some n, _ => .ok (integer n)
    | none, none, some x => .ok (if x.isNaN then notNumber else float x)
    | none, none, none =>
      match Pattern.fault? cs with
      | some fault => .error (.badPattern fault)
      | none => .ok (pattern cs)

/-- The written form. -/
def toText : FieldValue → String
  | bool b => if b then "true" else "false"
  | float x => x.toPlainText
  | notNumber => Binary64.nan.toPlainText
  | natural n => Decimal.ofNat n
  | integer n => Decimal.ofInt n
  | pattern cs => String.ofList cs

/-- The order of the kinds of values. -/
def rank : FieldValue → Nat
  | bool _ => 0
  | float _ => 1
  | notNumber => 2
  | natural _ => 3
  | integer _ => 4
  | pattern _ => 5

/-- The first value is the smaller one. -/
def lt : FieldValue → FieldValue → Bool
  | bool a, bool b => !a && b
  | float a, float b => a.lt b
  | natural a, natural b => a < b
  | integer a, integer b => a < b
  | pattern a, pattern b => String.ofList a < String.ofList b
  | a, b => a.rank < b.rank

/-- The values are the same. -/
def same (a b : FieldValue) : Bool := !a.lt b && !b.lt a

end FieldValue

/-- A field that a span has to have, and the value it has to have if one is named. -/
structure FieldTest where
  name : String
  value : Option FieldValue
  deriving DecidableEq

namespace FieldTest

/-- The test that characters spell: a name, or a name, `=` and a value. -/
def ofChars (cs : List Char) : Except FilterError FieldTest :=
  match cs.splitOn '=' with
  | name :: value :: _ =>
    (FieldValue.ofChars value).map fun value => ⟨String.ofList name, some value⟩
  | _ => .ok ⟨String.ofList cs, none⟩

/-- The written form. -/
def toText (f : FieldTest) : String :=
  match f.value with
  | some value => f.name ++ "=" ++ value.toText
  | none => f.name

/-- The first test is shown before the second: one with a value, and then the later name and the
larger value. -/
def precedes (a b : FieldTest) : Bool :=
  if a.value.isSome ≠ b.value.isSome then a.value.isSome
  else if a.name ≠ b.name then b.name < a.name
  else
    match a.value, b.value with
    | some x, some y => y.lt x
    | _, _ => false

/-- The tests are the same. -/
def same (a b : FieldTest) : Bool := !a.precedes b && !b.precedes a

end FieldTest

/-- One rule of a filter. -/
structure Directive where
  target : Option String
  span : Option String
  field : Option FieldTest
  level : Level
  deriving DecidableEq

namespace Directive

/-- The level after an equals sign; everything is shown without one. -/
def parseLevel (cs : List Char) : Except FilterError Level :=
  if cs.isEmpty then .ok .trace
  else
    match Level.ofText? (String.ofList cs) with
    | some level => .ok level
    | none => .error .badLevel

/-- A text that stands alone: a level, or a target. -/
def ofWord (s : String) : Directive :=
  match Level.ofText? s with
  | some level => ⟨none, none, none, level⟩
  | none => ⟨some s, none, none, .trace⟩

/-- A directive may start with the character: a letter or number, or one of `-`, `:` and `_`. -/
def isStart (c : Char) : Bool :=
  Text.isLetterOrNumber c || c == '-' || c == ':' || c == '_'

/-- The bytes of a text as written, from a position on. -/
def cut (written : List Char) (start : Nat) : Except FilterError (List Char) :=
  match Text.dropBytes? start written with
  | some cs => .ok cs
  | none => .error .badDirective

/-- The bytes of a text as written, so many from a position on. -/
def slice (written : List Char) (start length : Nat) : Except FilterError (List Char) :=
  match (Text.dropBytes? start written).bind (Text.takeBytes? length) with
  | some cs => .ok cs
  | none => .error .badDirective

/-- What follows the target and the span, from position `n` on: nothing, or an equals sign and a
level. -/
def parseRest (written : List Char) (n : Nat) (target span : Option String)
    (field : Option FieldTest) : List Char → Except FilterError Directive
  | [] => .ok ⟨target, span, field, .trace⟩
  | '=' :: _ => do
    let level ← parseLevel (← cut written (n + 1))
    .ok ⟨target, span, field, level⟩
  | _ => .error .badDirective

/-- What follows an opening brace, from position `n` on: a field, the two closing marks, and the
rest. -/
def parseField (written : List Char) (n : Nat) (target span : Option String) (cs : List Char) :
    Except FilterError Directive := do
  let head := cs.takeWhile (· != '}')
  let length := Text.byteLength head
  match cs.drop head.length with
  | '}' :: rest =>
    match ← slice written n length with
    | [] => .error .badDirective
    | field =>
      let field ← FieldTest.ofChars field
      match rest with
      | ']' :: rest => parseRest written (n + length + 2) target span (some field) rest
      | _ => .error .badDirective
  | _ => .error .badDirective

/-- What follows an opening bracket, from position `n` on: the name of a span, which may be missing
before a field, and the rest. -/
def parseSpan (written : List Char) (n : Nat) (target : Option String) (cs : List Char) :
    Except FilterError Directive := do
  let head := cs.takeWhile fun c => c != ']' && c != '{'
  let length := Text.byteLength head
  match cs.drop head.length with
  | [] => .error .badDirective
  | mark :: rest =>
    let name := String.ofList (← slice written n length)
    if mark = ']' then parseRest written (n + length + 1) target (some name) none rest
    else
      parseField written (n + length + 1) target (if name.isEmpty then none else some name) rest

/-- Read a directive.  The shape is found in the text without surrounding white space; the parts
are then cut at the same positions out of the text as written. -/
def parse (written : List Char) : Except FilterError Directive := do
  let cs := Text.trimChars written
  match cs with
  | [] => .error .badDirective
  | '[' :: rest => parseSpan written 1 none rest
  | c :: _ =>
    if isStart c then
      let head := cs.takeWhile fun c => c != '=' && c != '['
      let length := Text.byteLength head
      match cs.drop head.length with
      | [] => .ok (ofWord (String.ofList written))
      | rest =>
        let target := String.ofList (← slice written 0 length)
        match rest with
        | '[' :: rest => parseSpan written (length + 1) (some target) rest
        | rest => parseRest written length (some target) none none rest
    else .error .badDirective

/-- The span and the field in brackets. -/
def scopeText (d : Directive) : String :=
  let field := match d.field with
    | some field => "\x7b" ++ field.toText ++ "\x7d"
    | none => ""
  if d.span.isNone ∧ d.field.isNone then "" else "[" ++ d.span.getD "" ++ field ++ "]"

/-- The written form. -/
def toText (d : Directive) : String :=
  let scope := d.scopeText
  if d.target.isNone ∧ scope.isEmpty then d.level.toText
  else d.target.getD "" ++ scope ++ "=" ++ d.level.toText

/-- Length of the target in bytes, one more than that, and zero without a target. -/
def targetRank (d : Directive) : Nat :=
  match d.target with
  | some target => target.utf8ByteSize + 1
  | none => 0

/-- Two directives say something about the same target, span and field. -/
def sameScope (a b : Directive) : Bool :=
  a.target == b.target && a.span == b.span &&
    (match a.field, b.field with
      | some x, some y => x.same y
      | none, none => true
      | _, _ => false)

/-- The first directive is shown before the second: a longer target, a span, a field, and then the
later name. -/
def precedes (a b : Directive) : Bool :=
  if a.targetRank ≠ b.targetRank then b.targetRank < a.targetRank
  else if a.span.isSome ≠ b.span.isSome then a.span.isSome
  else if a.field.isSome ≠ b.field.isSome then a.field.isSome
  else if a.target ≠ b.target then b.target.getD "" < a.target.getD ""
  else if a.span ≠ b.span then b.span.getD "" < a.span.getD ""
  else
    match a.field, b.field with
    | some x, some y => x.precedes y
    | _, _ => false

/-- The directive depends on the spans that a record stands in. -/
def isDynamic (d : Directive) : Bool := d.span.isSome || d.field.isSome

/-- The directive can also be decided without looking at spans: it names no span, and no value of a
field. -/
def isStatic (d : Directive) : Bool :=
  d.span.isNone && (d.field.bind (·.value)).isNone

end Directive

/-- The rules of a log, the most specific first. -/
structure Filter where
  directives : List Directive
  deriving DecidableEq

namespace Filter

/-- Put a directive into its place, or in the place of the one with its scope. -/
def place (d : Directive) : List Directive → List Directive
  | [] => [d]
  | e :: rest =>
    if d.sameScope e then d :: rest
    else if d.precedes e then d :: e :: rest
    else e :: place d rest

/-- The filter of directives, those that need no spans before those that do, and those that can be
decided either way in both places; of two with one scope the later one counts. -/
def ofDirectives (ds : List Directive) : Filter :=
  let placed := ds.foldl (fun out d => place d out) []
  ⟨placed.filter (·.isStatic) ++ placed.filter (·.isDynamic)⟩

/-- The filter that shows errors. -/
def errorsOnly : Filter := ⟨[⟨none, none, none, .error⟩]⟩

/-- The directives between commas; empty ones are passed over. -/
def parts (s : String) : List (List Char) :=
  (s.toList.splitOn ',').filter (· ≠ [])

/-- Read a filter.  Errors are shown where nothing is said. -/
def parse (s : String) : Except FilterError Filter :=
  if s.isEmpty then .ok errorsOnly else ((parts s).mapM Directive.parse).map ofDirectives

/-- The written form. -/
def toText (f : Filter) : String :=
  String.intercalate "," (f.directives.map Directive.toText)

end Filter

end JobNode.Log
