import JobNode.DomainName.Characters
import JobNode.DomainName.Direction
import JobNode.DomainName.Joiner
import JobNode.DomainName.Punycode
import JobNode.Text.CharacterClass

/-!
# Domain names

A domain name may have characters of any script.  In the network it goes by its form in ASCII: the
letters are small, variants of characters are replaced, and a label with other characters is written
as `xn--` and what `Punycode` makes of it.  A label that is written so already has to be the form of a
label that needs it.
-/

namespace JobNode.DomainName

open JobNode.Text

/-- What a label starts with that stands for other characters. -/
def marker : List Char := ['x', 'n', '-', '-']

/-- The characters are all ASCII. -/
def isAscii (cs : List Char) : Bool := cs.all fun c => c.toNat < 128

/-- The most characters of a label that are written after the marker. -/
def maxEncoded : Nat := 1000

/-- The most characters that are read after the marker. -/
def maxDecoded : Nat := 2000

/-- The label starts with no mark, and its joiners stand where they are allowed. -/
def isWellFormed (label : List Char) : Bool :=
  !label.head?.any isMark && joinersFit [] label

/-- The characters stay as they are and are in composed form. -/
def isSettled (cs : List Char) : Bool :=
  cs.all (fun c => fate c == .stays) && compose cs == cs

/-- The label that is written after the marker; none if it does not need to be, or would not be
written so. -/
def decode? (cs : List Char) : Option (List Char) :=
  if cs = [] ∨ cs.getLast? = some '-' ∨ maxDecoded < cs.length then none
  else
    (Punycode.decode? cs).filter fun label =>
      isSettled label && !isAscii label && !label.contains '.' && !marker.isPrefixOf label

/-- A label. -/
structure Label where
  /-- The characters that it stands for. -/
  chars : List Char
  /-- Its form in ASCII. -/
  ascii : List Char

/-- The label that characters spell after they were replaced; none if there is no such label. -/
def label? (cs : List Char) : Option Label :=
  let label? : Option Label :=
    if isAscii cs then
      if marker.isPrefixOf cs then
        (decode? (cs.drop marker.length)).map fun chars => ⟨chars, cs⟩
      else some ⟨cs, cs⟩
    else if marker.isPrefixOf cs ∨ maxEncoded < cs.length then none
    else some ⟨cs, marker ++ Punycode.encode cs⟩
  label?.filter fun label => isWellFormed label.chars

/-- The labels of a domain name; none if it cannot be one. -/
def labels? (cs : List Char) : Option (List Label) :=
  match mapChars? cs with
  | none => none
  | some cs =>
    (((compose cs).splitOn '.').mapM label?).filter fun labels =>
      areLegible (labels.map Label.chars)

/-- The form of a domain name in ASCII, with the characters that it may not hold.  Characters of the
name count after they were replaced. -/
def toAscii? (isForbidden : Char → Bool) (cs : List Char) : Option (List Char) :=
  ((labels? cs).filter fun labels => !labels.any fun label => label.chars.any isForbidden).map
    fun labels => ['.'].intercalate (labels.map Label.ascii)

end JobNode.DomainName
