import JobNode.Json.Basic

/-!
# Writing JSON text

The compact form: no white space, fields in the order of the value, integers in decimal, floats in
the shortest form that reads back, and only what has to be escaped in a string escaped.
-/

namespace JobNode.Json

/-- The text of a number. -/
def Number.toChars : Number → List Char
  | .int n => Decimal.intChars n
  | .float x => x.toChars

/-- The hexadecimal digit of a value below sixteen. -/
def hexDigit (n : Nat) : Char :=
  if n < 10 then Char.ofNat (48 + n) else Char.ofNat (87 + n)

/-- A character inside a string. -/
def escapeChar (c : Char) : List Char :=
  if c = '"' then ['\\', '"']
  else if c = '\\' then ['\\', '\\']
  else if c = '\n' then ['\\', 'n']
  else if c = '\r' then ['\\', 'r']
  else if c = '\t' then ['\\', 't']
  else if c = '\x08' then ['\\', 'b']
  else if c = '\x0c' then ['\\', 'f']
  else if c.toNat < 32 then
    ['\\', 'u', '0', '0', hexDigit (c.toNat / 16), hexDigit (c.toNat % 16)]
  else [c]

/-- The text of a string. -/
def stringChars (s : String) : List Char :=
  '"' :: s.toList.flatMap escapeChar ++ ['"']

mutual

/-- The text of a value. -/
def toChars : Json → List Char
  | null => ['n', 'u', 'l', 'l']
  | bool true => ['t', 'r', 'u', 'e']
  | bool false => ['f', 'a', 'l', 's', 'e']
  | number n => n.toChars
  | string s => stringChars s
  | array [] => ['[', ']']
  | array (v :: vs) => '[' :: toChars v ++ itemsChars vs
  | object [] => ['{', '}']
  | object ((name, v) :: fs) =>
    '{' :: stringChars name ++ ':' :: toChars v ++ fieldsChars fs

/-- The text of the later values of an array, and its closing mark. -/
def itemsChars : List Json → List Char
  | [] => [']']
  | v :: vs => ',' :: toChars v ++ itemsChars vs

/-- The text of the later fields of an object, and its closing mark. -/
def fieldsChars : List (String × Json) → List Char
  | [] => ['}']
  | (name, v) :: fs => ',' :: stringChars name ++ ':' :: toChars v ++ fieldsChars fs

end

/-- The text of a value. -/
def render (v : Json) : String :=
  String.ofList v.toChars

end JobNode.Json
