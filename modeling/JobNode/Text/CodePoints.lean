import JobNode.Text.Basic

/-!
# Sets of code points

A property of characters is a set of code points.  Such sets are made of few long runs, so they are
written as the lengths of the runs outside and inside the set in turn, in hexadecimal and from the
first code point on, and held as the points where membership changes.
-/

namespace JobNode.Text

/-- The words between blanks. -/
def words (cs : List Char) : List (List Char) :=
  (cs.splitOn ' ').filter (· ≠ [])

/-- A set of code points. -/
structure CodePoints where
  /-- The points at which membership changes, in ascending order; the first code point is outside
  unless zero is one of them. -/
  changes : List Nat

namespace CodePoints

/-- The sums of the first numbers. -/
def sums (start : Nat) : List Nat → List Nat
  | [] => []
  | n :: ns => (start + n) :: sums (start + n) ns

/-- The set whose runs outside and inside have the lengths that lines list. -/
def ofRuns (lines : List String) : CodePoints :=
  ⟨sums 0 ((lines.flatMap fun line => words line.toList).filterMap Hex.number?)⟩

/-- A code point is in the set if membership has changed an odd number of times up to it. -/
def contains (s : CodePoints) (n : Nat) : Bool :=
  (s.changes.takeWhile (· ≤ n)).length % 2 == 1

end CodePoints

end JobNode.Text
