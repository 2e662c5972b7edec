import JobNode.Text.Basic
import JobNode.Text.CharacterClass

/-!
# Environment files

An environment file holds one variable a line: a name, an equals sign and a value.  Values may be
quoted, may span lines inside quotes, and may refer to variables by `$name` or the name in braces
after the dollar sign.  A `#` starts a comment where a line or, outside quotes, a word starts.

A line that cannot be read is a fault of that line alone; who reads the file decides whether to
pass over it (`first?`) or to stop there (`load`).  A file that is loaded fills the environment as it
is read, so a reference finds the first value of a variable there, and else the last one before.
-/

namespace JobNode.Environment

/-! ## Lines -/

/-- Where a reader of lines stands. -/
inductive LineState where
  | plain
  | blank
  | escape
  | strong
  | strongEscape
  | weak
  | weakEscape
  deriving DecidableEq

/-- Where the reader stands after one more character; none where a comment starts. -/
def LineState.next : LineState → Char → Option LineState
  | .blank, '#' => none
  | .blank, '\\' => some .escape
  | .blank, '"' => some .weak
  | .blank, '\x27' => some .strong
  | .blank, _ => some .plain
  | .plain, '\\' => some .escape
  | .plain, '"' => some .weak
  | .plain, '\x27' => some .strong
  | .plain, c => some (if Text.isBlank c && c != '\n' && c != '\r' then .blank else .plain)
  | .escape, _ => some .plain
  | .weak, '\\' => some .weakEscape
  | .weak, '"' => some .plain
  | .weak, _ => some .weak
  | .weakEscape, _ => some .weak
  | .strong, '\\' => some .strongEscape
  | .strong, '\x27' => some .plain
  | .strong, _ => some .strong
  | .strongEscape, _ => some .strong

/-- Where a line leaves the reader, and the characters of the line before a comment. -/
def LineState.scan : LineState → List Char → Option LineState × List Char
  | s, [] => (some s, [])
  | s, c :: cs =>
    match s.next c with
    | none => (none, [])
    | some s =>
      let (last, kept) := s.scan cs
      (last, c :: kept)

/-- The lines of a text, each with the line break that ends it. -/
def splitLines : List Char → List (List Char)
  | [] => []
  | c :: cs =>
    if c = '\n' then [c] :: splitLines cs
    else
      match splitLines cs with
      | [] => [[c]]
      | line :: rest => (c :: line) :: rest

/-- A line without the line break that ends it. -/
def dropBreak (line : List Char) : List Char :=
  match line.reverse with
  | '\n' :: '\r' :: rest => rest.reverse
  | '\n' :: rest => rest.reverse
  | _ => line

/-- Put lines together that a quotation holds together; none for one that never ends.  `held` is
what was read of the current one. -/
def joinLines (s : LineState) (held : List Char) : List (List Char) → List (Option (List Char))
  | [] => if s = .plain then [] else [none]
  | line :: rest =>
    let whole := held ++ line
    if (Text.trimLeft whole).head? = some '#' then some [] :: joinLines .plain [] rest
    else
      match s.scan line with
      | (none, kept) => some (held ++ kept) :: joinLines .plain [] rest
      | (some .plain, _) => some (dropBreak whole) :: joinLines .plain [] rest
      | (some s, _) => joinLines s whole rest

/-! ## Values -/

/-- A reference to a variable that is being read. -/
inductive Reference where
  | absent
  | bare
  | braced
  deriving DecidableEq

/-- Where a reader of values stands. -/
structure ValueState where
  strong : Bool := false
  weak : Bool := false
  escaped : Bool := false
  /-- A blank has ended the value. -/
  ended : Bool := false
  reference : Reference := .absent
  /-- The name that is referred to, as far as it was read. -/
  name : List Char := []
  value : List Char := []

namespace ValueState

/-- Add the value of the variable that was referred to. -/
def resolve (lookup : String → String) (s : ValueState) : ValueState :=
  { s with name := [], value := s.value ++ (lookup (String.ofList s.name)).toList }

/-- Add a character to the value. -/
def push (s : ValueState) (c : Char) : ValueState := { s with value := s.value ++ [c] }

/-- One more character after a dollar sign. -/
def stepReference (lookup : String → String) (s : ValueState) (c : Char) : ValueState :=
  if Text.isLetterOrNumber c then { s with name := s.name ++ [c] }
  else if s.reference = .braced then
    if c = '}' then { s.resolve lookup with reference := .absent }
    else { s with name := s.name ++ [c] }
  else if c = '{' ∧ s.name = [] then { s with reference := .braced }
  else if c = '$' then { s.resolve lookup with reference := .bare }
  else { (s.resolve lookup).push c with reference := .absent }

/-- One more character; none if it cannot stand there. -/
def step? (lookup : String → String) (s : ValueState) (c : Char) : Option ValueState :=
  if s.ended then if c = ' ' ∨ c = '\t' then some s else none
  else if s.escaped then
    if c = '\\' ∨ c = '\x27' ∨ c = '"' ∨ c = '$' ∨ c = ' ' then
      some { s.push c with escaped := false }
    else if c = 'n' then some { s.push '\n' with escaped := false }
    else none
  else if s.strong then some (if c = '\x27' then { s with strong := false } else s.push c)
  else if s.reference ≠ .absent then some (s.stepReference lookup c)
  else if c = '$' then some { s with reference := .bare }
  else if c = '\\' then some { s with escaped := true }
  else if s.weak then some (if c = '"' then { s with weak := false } else s.push c)
  else if c = '\x27' then some { s with strong := true }
  else if c = '"' then some { s with weak := true }
  else if c = ' ' ∨ c = '\t' then some { s with ended := true }
  else some (s.push c)

end ValueState

/-- Read a value up to its end or a comment; none if it is faulty. -/
def parseValue (lookup : String → String) (s : ValueState) : List Char → Option String
  | [] =>
    if s.reference = .braced ∨ s.strong ∨ s.weak then none
    else some (String.ofList (s.resolve lookup).value)
  | c :: cs =>
    if s.ended ∧ c = '#' then parseValue lookup s []
    else
      match s.step? lookup c with
      | some s => parseValue lookup s cs
      | none => none

/-! ## Variables -/

/-- The name that a text starts with, and the rest without leading white space. -/
def parseName (cs : List Char) : Option (String × List Char) :=
  match cs with
  | [] => none
  | c :: _ =>
    if c.isAlpha || c == '_' then
      let inName (c : Char) := c.isAlphanum || c == '_' || c == '.'
      some (String.ofList (cs.takeWhile inName), Text.trimLeft (cs.dropWhile inName))
    else none

/-- The text after an equals sign. -/
def afterEquals? : List Char → Option (List Char)
  | '=' :: cs => some (Text.trimLeft cs)
  | _ => none

/-- What a line says: nothing, a variable with its value, or something faulty. -/
inductive Entry where
  | nothing
  | assignment (name value : String)
  | fault
  deriving DecidableEq

/-- The value of a variable, after its name and the equals sign. -/
def parseAssignment (lookup : String → String) (name : String) (cs : List Char) : Entry :=
  if cs.isEmpty ∨ cs.head? = some '#' then .assignment name ""
  else
    match parseValue lookup {} cs with
    | some value => .assignment name value
    | none => .fault

/-- Read a line.  The word `export` before a name does not count. -/
def parseLine (lookup : String → String) (line : List Char) : Entry :=
  let cs := Text.trimChars line
  if cs.isEmpty ∨ cs.head? = some '#' then .nothing
  else
    match parseName cs with
    | none => .fault
    | some (name, rest) =>
      match afterEquals? rest with
      | some value => parseAssignment lookup name value
      | none =>
        if name = "export" then
          match parseName rest with
          | none => .fault
          | some (name, rest) =>
            match afterEquals? rest with
            | some value => parseAssignment lookup name value
            | none => .fault
        else .fault

/-- Which value a reference takes when lines before it give a variable several. -/
inductive Precedence where
  | first
  | last
  deriving DecidableEq

/-- The value of a variable: from the environment, else from the lines before, else empty. -/
def valueOf (precedence : Precedence) (environment : String → Option String)
    (before : List (String × String)) (name : String) : String :=
  let values := (before.filter fun e => e.1 = name).map (·.2)
  ((environment name).or
    (match precedence with
      | .first => values.head?
      | .last => values.getLast?)).getD ""

/-- Read lines one after the other.  `before` holds what was read, in order. -/
def parseLines (precedence : Precedence) (environment : String → Option String)
    (before : List (String × String)) : List (Option (List Char)) → List Entry
  | [] => []
  | none :: rest => .fault :: parseLines precedence environment before rest
  | some line :: rest =>
    match parseLine (valueOf precedence environment before) line with
    | .assignment name value =>
      .assignment name value ::
        parseLines precedence environment (before ++ [(name, value)]) rest
    | entry => entry :: parseLines precedence environment before rest

/-- What the lines of a file say that is only looked into: a reference takes the last value that its
variable had before. -/
def parseFile (environment : String → Option String) (text : String) : List Entry :=
  parseLines .last environment [] (joinLines .plain [] (splitLines text.toList))

/-- The text without the mark of its byte order. -/
def dropByteOrderMark (cs : List Char) : List Char :=
  match cs with
  | '\uFEFF' :: cs => cs
  | cs => cs

/-- What the lines of a file say that is taken over into the environment: a variable keeps its first
value. -/
def parseLoaded (environment : String → Option String) (text : String) : List Entry :=
  parseLines .first environment []
    (joinLines .plain [] (splitLines (dropByteOrderMark text.toList)))

/-- Every name that the text of a file may refer to. -/
def mentioned (text : String) : List String :=
  let blanked := text.toList.map fun c => if Text.isLetterOrNumber c || c = '_' then c else ' '
  ((blanked.splitOn ' ').filter (· ≠ [])).map String.ofList

/-- The first value of a variable, faulty lines passed over. -/
def first? (name : String) : List Entry → Option String
  | [] => none
  | .assignment n value :: rest => if n = name then some value else first? name rest
  | _ :: rest => first? name rest

/-- The variables up to the first faulty line. -/
def load : List Entry → List (String × String)
  | [] => []
  | .assignment name value :: rest => (name, value) :: load rest
  | .nothing :: rest => load rest
  | .fault :: _ => []

/-- An environment with the variables of a file; those it has already keep their values. -/
def extend (environment : String → Option String) (text : String) (name : String) :
    Option String :=
  (environment name).or
    (((load (parseLoaded environment text)).find? fun e => e.1 = name).map (·.2))

end JobNode.Environment
