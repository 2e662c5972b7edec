import JobNode.DomainName.Basic
import JobNode.Text.Decimal
import JobNode.Text.Percent

/-!
# Hosts of web addresses

The host of a special scheme is a domain name, a network address of four numbers, or a long network
address in brackets.  Other schemes keep their hosts as they are written, long network addresses
aside.
-/

namespace JobNode

namespace Url

/-- A name of the network cannot hold the character. -/
def isForbidden (c : Char) : Bool :=
  c.toNat ≤ 32 || c.toNat == 127 ||
    ['#', '/', ':', '<', '>', '?', '@', '[', '\\', ']', '^', '|', '%'].contains c

/-- The number that a part of a numeric host spells: octal after `0`, hexadecimal after `0x`. -/
def numericPart? (cs : List Char) : Option Nat :=
  let digits (base : Nat) (cs : List Char) : Option Nat :=
    cs.foldl (fun n c =>
      match n, Hex.digitValue? c with
      | some n, some d => if d < base then some (base * n + d) else none
      | _, _ => none) (some 0)
  match cs with
  | [] => none
  | '0' :: 'x' :: rest => digits 16 rest
  | '0' :: 'X' :: rest => digits 16 rest
  | '0' :: c :: rest => digits 8 (c :: rest)
  | cs => digits 10 cs

/-- The parts of a host between dots, without an empty last one. -/
def hostParts (cs : List Char) : List (List Char) :=
  let parts := cs.splitOn '.'
  if parts.length > 1 ∧ parts.getLast? = some [] then parts.dropLast else parts

/-- The host is meant as a number: its last part is one. -/
def endsInNumber (cs : List Char) : Bool :=
  match (hostParts cs).getLast? with
  | some part => (part != [] && part.all Decimal.isDigit) ||
    ((numericPart? part).isSome && part.head? == some '0')
  | none => false

/-- The four numbers of a network address, as one. -/
def numericHost? (cs : List Char) : Option Nat :=
  let parts := hostParts cs
  match parts.mapM numericPart? with
  | none => none
  | some ns =>
    if 4 < ns.length ∨ ns = [] ∨ ns.dropLast.any (255 < ·) then none
    else
      let last := ns.getLast?.getD 0
      if 1 <<< (8 * (5 - ns.length)) ≤ last then none
      else
        let indexed := ns.dropLast.zip (List.range ns.length)
        some (indexed.foldl (fun sum e => sum + e.1 <<< (8 * (3 - e.2))) last)

/-- A network address of four numbers. -/
def fourNumbers (n : Nat) : String :=
  String.intercalate "." ([n / 16777216, n / 65536 % 256, n / 256 % 256, n % 256].map Decimal.ofNat)

/-- The groups of a long network address between colons; none if one is no number of at most four
digits.  The last may be a network address of four numbers. -/
def groups? (cs : List Char) : Option (List Nat) :=
  if cs = [] then some []
  else
    let parts := cs.splitOn ':'
    let group? (part : List Char) : Option (List Nat) :=
      if part = [] ∨ 4 < part.length then none
      else
        (part.foldl (fun n c =>
          match n, Hex.digitValue? c with
          | some n, some d => some (16 * n + d)
          | _, _ => none) (some 0)).map fun n => [n]
    let last? (part : List Char) : Option (List Nat) :=
      if part.contains '.' then
        let ns := part.splitOn '.'
        if ns.length = 4 ∧ ns.all (fun n => n ≠ [] ∧ n.all Decimal.isDigit ∧
            (n.length = 1 ∨ n.head? ≠ some '0') ∧ Decimal.ofDigits n ≤ 255) then
          match ns.map Decimal.ofDigits with
          | [a, b, c, d] => some [256 * a + b, 256 * c + d]
          | _ => none
        else none
      else group? part
    match parts.dropLast.mapM group?, last? (parts.getLast?.getD []) with
    | some first, some last => some (first.flatten ++ last)
    | _, _ => none

/-- The eight groups of a long network address; `::` stands for as many zeros as are missing. -/
def longHost? (cs : List Char) : Option (List Nat) :=
  let rec split (before : List Char) : List Char → Option (List Char × List Char)
    | ':' :: ':' :: rest => some (before.reverse, rest)
    | c :: rest => split (c :: before) rest
    | [] => none
  match split [] cs with
  | none => (groups? cs).filter fun gs => gs.length = 8
  | some (left, right) =>
    match groups? left, groups? right with
    | some a, some b =>
      if a.length + b.length ≤ 7 ∧ (left.contains '.') = false then
        some (a ++ List.replicate (8 - a.length - b.length) 0 ++ b)
      else none
    | _, _ => none

/-- Length of the run of zeros at the start. -/
def zeroRun (gs : List Nat) : Nat := (gs.takeWhile (· == 0)).length

/-- The start and the length of the longest run of zeros, the first of several. -/
def longestRun (gs : List Nat) : Nat × Nat :=
  (List.range gs.length).foldl
    (fun best i => let n := zeroRun (gs.drop i); if best.2 < n then (i, n) else best) (0, 0)

/-- A long network address, its longest run of zeros left out. -/
def longText (gs : List Nat) : String :=
  let text (gs : List Nat) := String.intercalate ":" (gs.map fun g => String.ofList (Nat.toDigits 16 g))
  let (start, length) := longestRun gs
  if length < 2 then text gs
  else text (gs.take start) ++ "::" ++ text (gs.drop (start + length))

/-- The long network address in brackets. -/
def bracketedHost? (cs : List Char) : Option String :=
  if cs.getLast? = some ']' then
    (longHost? cs.dropLast).map fun gs => "[" ++ longText gs ++ "]"
  else none

/-- The host that characters spell for a special scheme. -/
def specialHost? (cs : List Char) : Option String :=
  match cs with
  | '[' :: rest => bracketedHost? rest
  | cs =>
    let name? := (Text.ofUtf8? (Text.percentDecode (Text.utf8 cs))).bind fun name =>
      DomainName.toAscii? isForbidden name.toList
    match name? with
    | none | some [] => none
    | some name =>
      if endsInNumber name then (numericHost? name).map fourNumbers else some (String.ofList name)

/-- A host that is kept as it is cannot hold the character. -/
def isForbiddenPlain (c : Char) : Bool :=
  [' ', '\x00', '\t', '\n', '\r', '#', '/', ':', '<', '>', '?', '@', '[', '\\', ']', '^',
    '|'].contains c

/-- The host that characters spell for a scheme that is not special. -/
def plainHost? (cs : List Char) : Option String :=
  match cs with
  | '[' :: rest => bracketedHost? rest
  | cs =>
    if cs.any isForbiddenPlain then none
    else some (String.ofList (Text.percentEncode Text.isControl cs))

end Url

end JobNode
