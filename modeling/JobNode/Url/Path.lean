import JobNode.Text.Basic
import JobNode.Text.Percent

/-!
# Paths of web addresses

A path is a list of segments.  Segments of dots stand for the place they are at or the one above, and
are resolved one after the other.  The name of a drive is never left by going up, and a file whose
path starts with one has no host.
-/

namespace JobNode

namespace Url

/-- A fragment cannot hold the character. -/
def escapedInFragment (c : Char) : Bool :=
  Text.isControl c || [' ', '"', '<', '>', '\x60'].contains c

/-- A path cannot hold the character. -/
def escapedInPath (c : Char) : Bool :=
  escapedInFragment c || ['#', '?', '{', '}'].contains c

/-- A segment that stands for the same place. -/
def isDot (segment : List Char) : Bool :=
  [".", "%2e"].contains (Text.lowerAscii (String.ofList segment))

/-- A segment that stands for the place above. -/
def isDoubleDot (segment : List Char) : Bool :=
  ["..", ".%2e", "%2e.", "%2e%2e"].contains (Text.lowerAscii (String.ofList segment))

/-- The name of a drive: a letter, and a colon or a bar. -/
def isDrive (segment : List Char) : Bool :=
  match segment with
  | [c, mark] => c.isAlpha && (mark == ':' || mark == '|')
  | _ => false

/-- The segment starts with the name of a drive. -/
def startsWithDrive (segment : List Char) : Bool :=
  isDrive (segment.take 2) && (segment.drop 2).head?.all (· == '\\')

/-- The segments of the place above; no place is above a drive. -/
def placeAbove (done : List (List Char)) : List (List Char) :=
  if done.getLast?.any startsWithDrive then done else done.dropLast

/-- A segment as it is kept: the drive that the path of a file starts with has a colon. -/
def settle (isFile : Bool) (done : List (List Char)) (segment : List Char) : List Char :=
  match segment with
  | [c, _] => if isFile && done.isEmpty && isDrive segment then [c, ':'] else segment
  | _ => segment

/-- Resolve the dots among segments; `done` are those before. -/
def resolve (isFile : Bool) (done : List (List Char)) : List (List Char) → List (List Char)
  | [] => done
  | segment :: rest =>
    let last (done : List (List Char)) := if rest.isEmpty then done ++ [[]] else done
    if isDoubleDot segment then resolve isFile (last (placeAbove done)) rest
    else if isDot segment then resolve isFile (last done) rest
    else resolve isFile (done ++ [settle isFile done segment]) rest

/-- The segments between slashes; a backslash counts as one in a special scheme. -/
def splitSegments (isSpecial : Bool) (cs : List Char) : List (List Char) :=
  let slashed := if isSpecial then cs.map fun c => if c = '\\' then '/' else c else cs
  (slashed.splitOn '/').map (Text.percentEncode escapedInPath)

/-- The written form of segments. -/
def pathText (segments : List (List Char)) : String :=
  String.ofList ('/' :: ['/'].intercalate segments)

/-- The written form of the path of a file, which has no empty segments at its start. -/
def filePathText (segments : List (List Char)) : String :=
  String.ofList ('/' :: (['/'].intercalate segments).dropWhile (· == '/'))

end Url

end JobNode
