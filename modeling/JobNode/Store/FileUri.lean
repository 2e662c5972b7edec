import JobNode.Text.Percent

/-!
# File URIs

A file may be named by a URI: after `file:` stand an authority, which has to be this machine, the
path, and after a question mark options between ampersands.  Every part is percent-encoded, and
ends early at an encoded zero byte.
-/

namespace JobNode

/-- A file and the options that it is named with. -/
structure FileUri where
  path : String
  options : List (String × String)
  deriving DecidableEq

namespace FileUri

/-- The characters after `file:`, if a text starts so. -/
def body? : List Char → Option (List Char)
  | 'f' :: 'i' :: 'l' :: 'e' :: ':' :: cs => some cs
  | _ => none

/-- The text of one part. -/
def decode (cs : List Char) : String :=
  Text.ofUtf8Lossy ((Text.percentDecode (Text.utf8 cs)).takeWhile (· ≠ 0))

/-- Options between ampersands; one without a name is no option. -/
def decodeOptions (cs : List Char) : List (String × String) :=
  let options := (cs.splitOn '&').map fun option =>
    let name := option.takeWhile (· ≠ '=')
    (decode name, decode (option.drop (name.length + 1)))
  options.filter fun option => option.1 ≠ ""

/-- The authority, and what follows it. -/
def splitAuthority : List Char → String × List Char
  | '/' :: '/' :: cs => (String.ofList (cs.takeWhile (· ≠ '/')), cs.dropWhile (· ≠ '/'))
  | cs => ("", cs)

/-- Read what follows `file:`; the error is an authority other than this machine. -/
def ofBody (cs : List Char) : Except String FileUri :=
  let (authority, cs) := splitAuthority cs
  if authority = "" ∨ authority = "localhost" then
    let cs := cs.takeWhile (· ≠ '#')
    let path := cs.takeWhile (· ≠ '?')
    .ok ⟨decode path, decodeOptions (cs.drop (path.length + 1))⟩
  else .error authority

/-- Is a switch on that is written as a number or a word? -/
def isOn (value : String) : Bool :=
  match value.toList.takeWhile Char.isDigit with
  | [] => ["on", "yes", "true"].contains (String.ofList (value.toList.map Char.toLower))
  | digits =>
    match (String.ofList digits).toNat? with
    | some n => n < 2147483648 && n % 256 != 0
    | none => false

/-- Is the switch of a name on?  The first option of the name counts. -/
def switch (uri : FileUri) (name : String) : Bool := (uri.options.lookup name).any isOn

end FileUri

end JobNode
