import JobNode.Text.Basic
import JobNode.Text.CharacterClass
import JobNode.Text.Decimal

/-!
# Patterns of field values

A value of a field can be compared with a pattern, which is a regular expression.  A filter that
names a pattern is refused when the pattern cannot be turned into a machine: its syntax is wrong, it
asks for letters in the sense of Unicode, it could match half a character, or it looks for the
boundary of a word in the sense of Unicode.

A pattern is read into a tree (`Pattern.parse?`), and the tree is looked through with the modes that
its flags set (`Pattern.survey?`).  The text of a pattern holds no closing brace, so whatever needs
one is wrong.
-/

namespace JobNode.Log

/-- A character of a pattern. -/
structure PatternChar where
  char : Char
  /-- It is written as the number of a byte. -/
  isByte : Bool := false

/-- What flags switch on or off. -/
inductive PatternFlag where
  | ignoreCase
  | unicode
  | spaced
  /-- A flag that has no part in whether a pattern can be used. -/
  | other (name : Char)
  deriving DecidableEq

/-- Flags that are switched, on or off each. -/
abbrev PatternSwitches := List (PatternFlag × Bool)

mutual

/-- A part of a set of characters. -/
inductive PatternItem where
  | char (c : PatternChar)
  | range (first last : PatternChar)
  /-- A class of ASCII characters by its name. -/
  | named (negated : Bool)
  /-- Digits, blanks or the characters of words. -/
  | kind (negated : Bool)
  | nested (negated : Bool) (body : PatternSet)

/-- A set of characters: parts together, or two sets that are combined. -/
inductive PatternSet where
  | union (items : List PatternItem)
  | combined (left right : PatternSet)

end

/-- A regular expression. -/
inductive Pattern where
  | empty
  | switch (flags : PatternSwitches)
  | char (c : PatternChar)
  | any
  /-- The start or the end of a line or of the text. -/
  | edge
  /-- A place that is told by whether words start or end there. -/
  | wordEdge
  /-- Digits, blanks or the characters of words. -/
  | kind (negated : Bool)
  | set (negated : Bool) (body : PatternSet)
  | repeated (p : Pattern)
  | group (flags : PatternSwitches) (p : Pattern)
  | concat (ps : List Pattern)
  | alternation (ps : List Pattern)

namespace Pattern

/-! ## Reading -/

/-- Drop white space and comments, if the pattern may have them. -/
def skip (spaced : Bool) : List Char → List Char
  | [] => []
  | c :: cs =>
    if !spaced then c :: cs
    else if Text.isBlank c then skip spaced cs
    else if c = '#' then comment cs
    else c :: cs
where
  /-- The text after a comment. -/
  comment : List Char → List Char
    | [] => []
    | c :: cs => if c = '\n' then skip spaced cs else comment cs

/-- What follows after white space; none at the end. -/
def skip? (spaced : Bool) (cs : List Char) : Option (List Char) :=
  match skip spaced cs with
  | [] => none
  | cs => some cs

/-- The character that comes after white space and one comment mark. -/
def peek? (spaced : Bool) (cs : List Char) : Option Char :=
  if !spaced then cs.head?
  else
    let rest :=
      match Text.trimLeft cs with
      | '#' :: rest => Text.trimLeft rest
      | rest => rest
    rest.head?.or cs.head?

/-- What a backslash and what follows it stand for. -/
inductive Escape where
  | char (c : PatternChar)
  | kind (negated : Bool)
  | edge
  | wordEdge

/-- The digits of a character's number, with white space before each. -/
def digits? (spaced : Bool) : Nat → List Char → Option (List Char × List Char)
  | 0, cs => some ([], cs)
  | n + 1, cs =>
    match skip spaced cs with
    | [] => none
    | c :: cs =>
      if (Hex.digitValue? c).isSome then
        (digits? spaced n cs).map fun (digits, rest) => (c :: digits, rest)
      else none

/-- A character by its number of so many digits. -/
def numbered? (spaced : Bool) (width : Nat) (isByte : Bool) (cs : List Char) :
    Option (Escape × List Char) :=
  (digits? spaced width cs).bind fun (digits, rest) =>
    (Hex.number? digits).bind fun n =>
      if h : n.isValidChar then some (.char ⟨Char.ofNatAux n h, isByte⟩, rest) else none

/-- Read what follows a backslash. -/
def escape? (spaced : Bool) : List Char → Option (Escape × List Char)
  | [] => none
  | c :: cs =>
    let plain (c : Char) : Option (Escape × List Char) := some (.char ⟨c, false⟩, cs)
    match c with
    | 'x' => numbered? spaced 2 true cs
    | 'u' => numbered? spaced 4 false cs
    | 'U' => numbered? spaced 8 false cs
    | 'd' | 's' | 'w' => some (.kind false, cs)
    | 'D' | 'S' | 'W' => some (.kind true, cs)
    | 'a' => plain '\x07'
    | 'f' => plain '\x0c'
    | 't' => plain '\t'
    | 'n' => plain '\n'
    | 'r' => plain '\r'
    | 'v' => plain '\x0b'
    | 'A' | 'z' => some (.edge, cs)
    | 'b' | 'B' | '<' | '>' => some (.wordEdge, cs)
    | c => if 128 ≤ c.toNat ∨ c.isAlphanum then none else plain c

/-! ### Sets of characters -/

/-- The names of the classes of ASCII characters. -/
def classNames : List String :=
  ["alnum", "alpha", "ascii", "blank", "cntrl", "digit", "graph", "lower", "print", "punct",
    "space", "upper", "word", "xdigit"]

/-- A class by its name, after an opening bracket. -/
def named? (cs : List Char) : Option (PatternItem × List Char) :=
  match cs with
  | ':' :: cs =>
    let (negated, cs) :=
      match cs with
      | '^' :: rest => (true, rest)
      | cs => (false, cs)
    let name := cs.takeWhile (· != ':')
    match cs.drop name.length with
    | ':' :: ']' :: rest =>
      if classNames.contains (String.ofList name) then some (.named negated, rest) else none
    | _ => none
  | _ => none

/-- A single part of a set: a character, or what a backslash stands for. -/
def part? (spaced : Bool) : List Char → Option (Escape × List Char)
  | [] => none
  | '\\' :: cs => escape? spaced cs
  | c :: cs => some (.char ⟨c, false⟩, cs)

/-- A part of a set, or a range between two characters. -/
def item? (spaced : Bool) (cs : List Char) : Option (PatternItem × List Char) :=
  (part? spaced cs).bind fun (first, cs) =>
    (skip? spaced cs).bind fun cs =>
      let alone : Option (PatternItem × List Char) :=
        match first with
        | .char c => some (.char c, cs)
        | .kind negated => some (.kind negated, cs)
        | _ => none
      match cs with
      | '-' :: rest =>
        let next := peek? spaced rest
        if next = some ']' ∨ next = some '-' then alone
        else
          (skip? spaced rest).bind fun rest =>
            match first, part? spaced rest with
            | .char a, some (.char b, rest) =>
              if a.char ≤ b.char then some (.range a b, rest) else none
            | _, _ => none
      | _ => alone

/-- Hyphens at the start of a set, which stand for themselves. -/
def hyphens? (spaced : Bool) : Nat → List PatternItem → List Char →
    Option (List PatternItem × List Char)
  | 0, _, _ => none
  | fuel + 1, items, cs =>
    match cs with
    | '-' :: cs =>
      (skip? spaced cs).bind (hyphens? spaced fuel (.char ⟨'-', false⟩ :: items))
    | cs => some (items, cs)

/-- The start of a set: whether it is negated, and the hyphens, or the bracket, that stand for
themselves there. -/
def open? (spaced : Bool) (cs : List Char) :
    Option (Bool × List PatternItem × List Char) := do
  let cs ← skip? spaced cs
  let (negated, cs) ←
    match cs with
    | '^' :: cs => (skip? spaced cs).map ((true, ·))
    | cs => some (false, cs)
  let (items, cs) ← hyphens? spaced (cs.length + 1) [] cs
  match items, cs with
  | [], ']' :: cs => (skip? spaced cs).map fun cs => (negated, [.char ⟨']', false⟩], cs)
  | items, cs => some (negated, items, cs)

/-- The set so far: what stands before an operator, combined with the parts after it. -/
def close (left? : Option PatternSet) (items : List PatternItem) : PatternSet :=
  match left? with
  | some left => .combined left (.union items.reverse)
  | none => .union items.reverse

/-- Read a set up to its closing bracket.  `items` holds the parts since the last operator, the
latest first. -/
def set? (spaced : Bool) : Nat → Option PatternSet → List PatternItem → List Char →
    Option (PatternSet × List Char)
  | 0, _, _, _ => none
  | fuel + 1, left?, items, cs =>
    match skip spaced cs with
    | [] => none
    | '[' :: cs =>
      match named? cs with
      | some (item, cs) => set? spaced fuel left? (item :: items) cs
      | none =>
        (open? spaced cs).bind fun (negated, inner, cs) =>
          (set? spaced fuel none inner cs).bind fun (body, cs) =>
            set? spaced fuel left? (.nested negated body :: items) cs
    | ']' :: cs => some (close left? items, cs)
    | '&' :: '&' :: cs => set? spaced fuel (some (close left? items)) [] cs
    | '-' :: '-' :: cs => set? spaced fuel (some (close left? items)) [] cs
    | '~' :: '~' :: cs => set? spaced fuel (some (close left? items)) [] cs
    | cs => (item? spaced cs).bind fun (item, cs) => set? spaced fuel left? (item :: items) cs

/-! ### Groups -/

/-- The flag of a letter. -/
def flag? : Char → Option PatternFlag
  | 'i' => some .ignoreCase
  | 'u' => some .unicode
  | 'x' => some .spaced
  | c => if ['m', 's', 'U', 'R'].contains c then some (.other c) else none

/-- Flags up to a colon or a closing bracket.  `off` says that a hyphen has come before, and `last`
that it was the last character. -/
def switches? (off last : Bool) (seen : PatternSwitches) :
    List Char → Option (PatternSwitches × List Char)
  | [] => none
  | c :: cs =>
    if c = ':' ∨ c = ')' then if last then none else some (seen.reverse, c :: cs)
    else if c = '-' then if off then none else switches? true true seen cs
    else
      match flag? c with
      | none => none
      | some flag =>
        if seen.any (·.1 = flag) then none
        else switches? off false ((flag, !off) :: seen) cs

/-- How a group starts. -/
inductive Opening where
  /-- Flags for what follows in the group around. -/
  | switch (flags : PatternSwitches)
  | group (flags : PatternSwitches)
  | name (s : String)

/-- The name of a group, up to the bracket that closes it. -/
def groupName? (cs : List Char) : Option (Opening × List Char) :=
  let name := cs.takeWhile (· != '>')
  let first (c : Char) : Bool := c == '_' || Text.isAlphabetic c
  let later (c : Char) : Bool := ['_', '.', '[', ']'].contains c || Text.isLetterOrNumber c
  match name, cs.drop name.length with
  | c :: rest, '>' :: cs =>
    if first c ∧ rest.all later then some (.name (String.ofList name), cs) else none
  | _, _ => none

/-- Read what follows an opening round bracket. -/
def opening? (spaced : Bool) (cs : List Char) : Option (Opening × List Char) :=
  match skip spaced cs with
  | '?' :: '=' :: _ | '?' :: '!' :: _ | '?' :: '<' :: '=' :: _ | '?' :: '<' :: '!' :: _ => none
  | '?' :: 'P' :: '<' :: cs => groupName? cs
  | '?' :: '<' :: cs => groupName? cs
  | '?' :: cs =>
    match switches? false false [] cs with
    | some (flags, ':' :: cs) => some (.group flags, cs)
    | some (flags, _ :: cs) => if flags.isEmpty then none else some (.switch flags, cs)
    | _ => none
  | cs => some (.group [], cs)

/-- Whether white space counts, after flags were switched. -/
def spacedAfter (spaced : Bool) (flags : PatternSwitches) : Bool :=
  (flags.lookup .spaced).getD spaced

/-! ### Whole patterns -/

/-- Items one after the other. -/
def sequence : List Pattern → Pattern
  | [] => .empty
  | [p] => p
  | ps => .concat ps

/-- What is read of a group. -/
structure Reading where
  spaced : Bool
  /-- The names of groups. -/
  names : List String
  /-- The alternatives that are complete, the latest first. -/
  branches : List Pattern := []
  /-- The items of the current one, the latest first. -/
  items : List Pattern := []

namespace Reading

/-- Add an item. -/
def push (r : Reading) (p : Pattern) : Reading := { r with items := p :: r.items }

/-- The pattern that was read. -/
def finish (r : Reading) : Pattern :=
  let last := sequence r.items.reverse
  if r.branches.isEmpty then last else .alternation (last :: r.branches).reverse

/-- Repeat the last item; none if there is nothing to repeat. -/
def repeat? (r : Reading) : Option Reading :=
  match r.items with
  | [] => none
  | .switch _ :: _ => none
  | p :: items => some { r with items := .repeated p :: items }

end Reading

/-- Read a group up to a closing bracket or the end: the pattern, the names of groups, and the
rest. -/
def read? : Nat → Reading → List Char → Option (Pattern × List String × List Char)
  | 0, _, _ => none
  | fuel + 1, r, cs =>
    match skip r.spaced cs with
    | [] => some (r.finish, r.names, [])
    | ')' :: cs => some (r.finish, r.names, ')' :: cs)
    | '|' :: cs =>
      read? fuel { r with branches := sequence r.items.reverse :: r.branches, items := [] } cs
    | '(' :: cs =>
      let enclosed (flags : PatternSwitches) (names : List String) (cs : List Char) :=
        (read? fuel { spaced := spacedAfter r.spaced flags, names } cs).bind
          fun (p, names, cs) =>
            match cs with
            | ')' :: cs => read? fuel { r.push (.group flags p) with names } cs
            | _ => none
      match opening? r.spaced cs with
      | none => none
      | some (.switch flags, cs) =>
        read? fuel { r.push (.switch flags) with spaced := spacedAfter r.spaced flags } cs
      | some (.group flags, cs) => enclosed flags r.names cs
      | some (.name s, cs) => if r.names.contains s then none else enclosed [] (s :: r.names) cs
    | '[' :: cs =>
      (open? r.spaced cs).bind fun (negated, items, cs) =>
        (set? r.spaced (cs.length + 1) none items cs).bind fun (body, cs) =>
          read? fuel (r.push (.set negated body)) cs
    | '{' :: _ => none
    | '\\' :: cs =>
      (escape? r.spaced cs).bind fun (e, cs) =>
        read? fuel
          (r.push (match e with
            | .char c => .char c
            | .kind negated => .kind negated
            | .edge => .edge
            | .wordEdge => .wordEdge)) cs
    | c :: cs =>
      if c = '?' ∨ c = '*' ∨ c = '+' then
        r.repeat?.bind fun r =>
          read? fuel r (match cs with
            | '?' :: cs => cs
            | cs => cs)
      else if c = '.' then read? fuel (r.push .any) cs
      else if c = '^' ∨ c = '$' then read? fuel (r.push .edge) cs
      else read? fuel (r.push (.char ⟨c, false⟩)) cs

/-! ### Depth -/

mutual

/-- How deep the parts of a set are nested. -/
def itemDepth : PatternItem → Nat
  | .nested _ body => 1 + setDepth body
  | _ => 0

/-- The largest depth of parts. -/
def itemsDepth : List PatternItem → Nat
  | [] => 0
  | item :: items => max (itemDepth item) (itemsDepth items)

/-- How deep a set is nested. -/
def setDepth : PatternSet → Nat
  | .union items => (if items.length ≤ 1 then 0 else 1) + itemsDepth items
  | .combined left right => 1 + max (setDepth left) (setDepth right)

end

mutual

/-- How deep a pattern is nested. -/
def depth : Pattern → Nat
  | .set _ body => 1 + setDepth body
  | .repeated p => 1 + depth p
  | .group _ p => 1 + depth p
  | .concat ps => 1 + depths ps
  | .alternation ps => 1 + depths ps
  | _ => 0

/-- The largest depth of patterns. -/
def depths : List Pattern → Nat
  | [] => 0
  | p :: ps => max (depth p) (depths ps)

end

/-- A pattern is not nested deeper than this. -/
def maxDepth : Nat := 250

/-- Read a pattern. -/
def parse? (cs : List Char) : Option Pattern :=
  match read? (cs.length + 1) { spaced := false, names := [] } cs with
  | some (p, _, []) => if p.depth ≤ maxDepth then some p else none
  | _ => none

/-! ## Use -/

/-- The modes that decide what a pattern stands for. -/
structure Mode where
  ignoreCase : Bool := false
  unicode : Bool := true

namespace Mode

/-- The mode after flags were switched. -/
def after (m : Mode) (flags : PatternSwitches) : Mode where
  ignoreCase := (flags.lookup .ignoreCase).getD m.ignoreCase
  unicode := (flags.lookup .unicode).getD m.unicode

/-- The character can stand in a pattern: letters of either case are known only within ASCII, and a
byte of its own makes no character. -/
def allowsChar (m : Mode) (c : PatternChar) : Bool :=
  if m.unicode then !m.ignoreCase else !c.isByte || c.char.toNat < 128

/-- The character can stand in a set. -/
def allowsInSet (m : Mode) (c : PatternChar) : Bool :=
  if m.unicode then !m.ignoreCase else c.char.toNat < 128

/-- A named set can be used: the sets of Unicode are not known, and the bytes outside a set make no
characters. -/
def allowsKind (m : Mode) (negated : Bool) : Bool := !m.unicode && !negated

end Mode

mutual

/-- The part of a set can be used. -/
def itemAllowed (m : Mode) : PatternItem → Bool
  | .char c => m.allowsInSet c
  | .range first last => m.allowsInSet first && m.allowsInSet last
  | .named negated => if m.unicode then !m.ignoreCase else !negated
  | .kind negated => m.allowsKind negated
  | .nested negated body => (m.unicode || !negated) && setAllowed m body

/-- All parts of a set can be used. -/
def itemsAllowed (m : Mode) : List PatternItem → Bool
  | [] => true
  | item :: items => itemAllowed m item && itemsAllowed m items

/-- The set can be used. -/
def setAllowed (m : Mode) : PatternSet → Bool
  | .union items => itemsAllowed m items
  | .combined left right => setAllowed m left && setAllowed m right

end

mutual

/-- Look through a pattern in a mode: the mode after it, and whether it looks for the boundary of a
word in the sense of Unicode; none if something in it cannot be used. -/
def survey? (m : Mode) : Pattern → Option (Mode × Bool)
  | .empty | .edge => some (m, false)
  | .switch flags => some (m.after flags, false)
  | .char c => if m.allowsChar c then some (m, false) else none
  | .any => if m.unicode then some (m, false) else none
  | .wordEdge => some (m, m.unicode)
  | .kind negated => if m.allowsKind negated then some (m, false) else none
  | .set negated body =>
    if (m.unicode || !negated) && setAllowed m body then some (m, false) else none
  | .repeated p => survey? m p
  | .group flags p => (survey? (m.after flags) p).map fun x => (m, x.2)
  | .concat ps => surveyAll? m ps
  | .alternation ps => surveyAll? m ps

/-- Look through patterns one after the other. -/
def surveyAll? (m : Mode) : List Pattern → Option (Mode × Bool)
  | [] => some (m, false)
  | p :: ps =>
    match survey? m p with
    | none => none
    | some (m, found) => (surveyAll? m ps).map fun x => (x.1, found || x.2)

end

/-- Why a pattern cannot be used. -/
inductive Fault where
  | malformed
  | unicodeWordBoundary
  deriving DecidableEq

/-- The message of the fault. -/
def Fault.message : Fault → String
  | malformed => "error building NFA"
  | unicodeWordBoundary =>
    "unsupported regex feature for DFAs: cannot build DFAs for regexes with Unicode word " ++
      "boundaries; switch to ASCII word boundaries, or heuristically enable Unicode word " ++
      "boundaries or use a different regex engine"

/-- Why the pattern that characters spell cannot be used; none if it can. -/
def fault? (cs : List Char) : Option Fault :=
  match (parse? cs).bind (survey? {}) with
  | none => some .malformed
  | some (_, true) => some .unicodeWordBoundary
  | some (_, false) => none

end Pattern

end JobNode.Log
