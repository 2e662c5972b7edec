import JobNode.Dict
import JobNode.Text.Basic

/-!
# Request headers

The further headers of a webhook request.  Names are compared without regard to the case of their
letters, and of two headers with one name the later one counts.  One bad name or value refuses them
all; the first in order is reported, a name before its value.  A request holds a limited number of
names, and nobody can be told when they do not fit.
-/

namespace JobNode

/-- Why headers are refused. -/
inductive HeaderError where
  | badName (name : String)
  /-- The name is in lower case. -/
  | badValue (name : String)
  deriving DecidableEq

/-- The message of the error. -/
def HeaderError.message : HeaderError → String
  | badName name => "invalid webhook header name '" ++ name ++ "': invalid HTTP header name"
  | badValue name =>
    "invalid webhook header value for '" ++ name ++ "': failed to parse header value"

namespace Headers

/-- The punctuation that a name can hold. -/
def namePunctuation : List Char :=
  ['!', '#', '$', '%', '&', '\x27', '*', '+', '-', '.', '^', '_', '\x60', '|', '~']

/-- A name can hold the character. -/
def isNameChar (c : Char) : Bool :=
  c.isAlphanum || namePunctuation.contains c

/-- The longest name. -/
def maxNameLength : Nat := 65535

/-- The text can be the name of a header. -/
def isName (s : String) : Bool :=
  !s.isEmpty && s.toList.all isNameChar && s.length ≤ maxNameLength

/-- A value can hold the character: all but the control characters, of which the tab is allowed. -/
def isValueChar (c : Char) : Bool :=
  c == '\t' || (32 ≤ c.toNat && c.toNat != 127)

/-- The text can be the value of a header. -/
def isValue (s : String) : Bool :=
  s.toList.all isValueChar

/-- Whether a request takes one more header.  It may go by the name, which comes first, and by the
names that were put in before, the latest of them first. -/
abbrev Room := List String → Bool

/-- Room for so many names; a full request does not even take a header whose name it has. -/
def Room.upTo (most : Nat) : Room
  | [] => true
  | _ :: past => past.length < most || (Dict.ofList (past.map fun name => (name, ()))).size < most

/-- The room of a request whose names are spread well: no more than 24576 of them fit. -/
def Room.usual : Room := .upTo 24576

/-- Put headers one by one into a dictionary, names in lower case; none where there is no room for
one of them. -/
def add (room : Room) (past : List String) (headers : Dict String) :
    List (String × String) → Option (Except HeaderError (Dict String))
  | [] => some (.ok headers)
  | (name, value) :: rest =>
    if isName name then
      let name := Text.lowerAscii name
      if isValue value then
        if room (name :: past) then add room (name :: past) (headers.insert name value) rest
        else none
      else some (.error (.badValue name))
    else some (.error (.badName name))

/-- The headers of a list of names and values, if there is room for them. -/
def ofList (room : Room) (pairs : List (String × String)) :
    Option (Except HeaderError (Dict String)) :=
  add room [] .empty pairs

end Headers

end JobNode
