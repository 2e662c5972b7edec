/-!
# Characters beyond ASCII in labels

A label of a domain name is written in ASCII.  Its other characters are taken out and written behind
the rest, in ascending order, each as the distance from the one before: how many places of how many
code points lie between them.  A distance is a number of variable length in base 36; what ends a
number shifts with the distances seen so far.

A distance stays below `2 ^ 32`.
-/

namespace JobNode.Punycode

/-- The base of the numbers. -/
def base : Nat := 36

/-- The character of a digit: letters, then figures. -/
def digitChar (d : Nat) : Char :=
  if d < 26 then Char.ofNat (97 + d) else Char.ofNat (22 + d)

/-- The digit of a character. -/
def digit? (c : Char) : Option Nat :=
  let n := c.toNat
  if 97 ≤ n ∧ n ≤ 122 then some (n - 97)
  else if 65 ≤ n ∧ n ≤ 90 then some (n - 65)
  else if 48 ≤ n ∧ n ≤ 57 then some (n - 22)
  else none

/-- A smaller digit ends a number; `k` grows by `base` with each digit of the number. -/
def threshold (k bias : Nat) : Nat :=
  if k ≤ bias then 1 else if bias + 26 ≤ k then 26 else k - bias

theorem threshold_pos (k bias : Nat) : 1 ≤ threshold k bias := by
  unfold threshold
  split
  · omega
  · split <;> omega

theorem threshold_le (k bias : Nat) : threshold k bias ≤ 26 := by
  unfold threshold
  split
  · omega
  · split <;> omega

/-- Divide by 35 until little is left: what is left, and `base` for each division. -/
def scaleDown (delta k : Nat) : Nat × Nat :=
  if 455 < delta then scaleDown (delta / 35) (k + base) else (delta, k)
termination_by delta
decreasing_by omega

/-- How a distance shifts what ends the next number; `count` characters are in place then. -/
def adapt (delta count : Nat) (isFirst : Bool) : Nat :=
  let delta := if isFirst then delta / 700 else delta / 2
  let (delta, k) := scaleDown (delta + delta / count) 0
  k + base * delta / (delta + 38)

/-- The first code point that is not ASCII. -/
def firstCode : Nat := 128

/-- The shift before the first number. -/
def firstBias : Nat := 72

/-- Distances stay below this. -/
def limit : Nat := 0x100000000

/-! ## Reading -/

/-- What a reader of numbers has read. -/
structure Decoder where
  /-- The characters in place. -/
  placed : List Char
  /-- The code point of the last one that was put into its place. -/
  code : Nat := firstCode
  bias : Nat := firstBias
  /-- The place behind it. -/
  place : Nat := 0
  /-- The current number, added to `place`. -/
  sum : Nat := 0
  weight : Nat := 1
  k : Nat := base

namespace Decoder

/-- The current number is complete: put a character into its place. -/
def place? (s : Decoder) : Option Decoder :=
  let count := s.placed.length + 1
  let code := s.code + s.sum / count
  let i := s.sum % count
  if h : code.isValidChar then
    some
      { placed := s.placed.take i ++ Char.ofNatAux code h :: s.placed.drop i
        code
        bias := adapt (s.sum - s.place) count (s.place == 0)
        place := i + 1
        sum := i + 1 }
  else none

/-- Read one digit. -/
def step? (s : Decoder) (c : Char) : Option Decoder :=
  match digit? c with
  | none => none
  | some d =>
    let sum := s.sum + d * s.weight
    let t := threshold s.k s.bias
    if limit ≤ sum then none
    else if d < t then place? { s with sum }
    else
      let weight := s.weight * (base - t)
      if limit ≤ weight then none else some { s with sum, weight, k := s.k + base }

end Decoder

/-- The characters before the last hyphen, and those after it; a hyphen at the very start does not
count. -/
def splitLast (cs : List Char) : List Char × List Char :=
  let tail := (cs.reverse.takeWhile (· != '-')).reverse
  let head := cs.take (cs.length - tail.length - 1)
  if head = [] then ([], cs) else (head, tail)

/-- Read a label; none if it is not written this way. -/
def decode? (cs : List Char) : Option (List Char) :=
  let (placed, digits) := splitLast cs
  match digits.foldlM Decoder.step? { placed } with
  | some s => if s.k = base then some s.placed else none
  | none => none

/-! ## Writing -/

/-- The digits of a number. -/
def digits (bias k n : Nat) : List Char :=
  let t := threshold k bias
  if n < t then [digitChar n]
  else digitChar (t + (n - t) % (base - t)) :: digits bias (k + base) ((n - t) / (base - t))
termination_by n
decreasing_by
  have pos := threshold_pos k bias
  have le := threshold_le k bias
  have := Nat.div_le_self (n - threshold k bias) (base - threshold k bias)
  omega

/-- What a writer of numbers has written. -/
structure Encoder where
  text : List Char
  /-- The number of characters that are in place. -/
  count : Nat
  bias : Nat := firstBias
  /-- The distance from the last one. -/
  delta : Nat := 0
  isFirst : Bool := true

namespace Encoder

/-- Pass by a character on the way to the places of one code point. -/
def pass (code : Nat) (s : Encoder) (c : Char) : Encoder :=
  if c.toNat < code then { s with delta := s.delta + 1 }
  else if c.toNat = code then
    { text := s.text ++ digits s.bias base s.delta
      count := s.count + 1
      bias := adapt s.delta (s.count + 1) s.isFirst
      delta := 0
      isFirst := false }
  else s

/-- Write the places of code points, which ascend from the given one on. -/
def write (cs : List Char) : Nat → List Nat → Encoder → Encoder
  | _, [], s => s
  | from_, code :: codes, s =>
    let s := { s with delta := s.delta + (code - from_) * (s.count + 1) }
    let s := cs.foldl (pass code) s
    write cs (code + 1) codes { s with delta := s.delta + 1 }

end Encoder

/-- The code points beyond ASCII, each once and in ascending order. -/
def codes (cs : List Char) : List Nat :=
  ((cs.map Char.toNat).filter (firstCode ≤ ·)).mergeSort.eraseDups

/-- Write a label. -/
def encode (cs : List Char) : List Char :=
  let plain := cs.filter fun c => c.toNat < firstCode
  let start : Encoder := { text := plain ++ (if plain = [] then [] else ['-']), count := plain.length }
  (Encoder.write cs firstCode (codes cs) start).text

end JobNode.Punycode
