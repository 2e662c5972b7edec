import JobNode.Url.Host
import JobNode.Url.Path

/-!
# Web addresses

Absolute addresses as a web client reads them: a scheme, then for most schemes a user, a host and a
port, a path, a query and a fragment.  Six schemes are special: their hosts are names or numbers of
the network, a backslash counts as a slash, and a host is required except for files.

The written form is the normal one: letters of the scheme and the host in lower case, no default
port, dot segments resolved, and characters that an address cannot hold percent-encoded.
-/

namespace JobNode

/-- Who asks, as far as an address says it; both parts percent-encoded. -/
structure Credentials where
  user : String
  password : Option String
  deriving DecidableEq

/-- An absolute address. -/
structure Url where
  scheme : String
  credentials : Option Credentials := none
  /-- The host as written; none where the address has no place for one. -/
  host : Option String := none
  port : Option Nat := none
  /-- The path as written. -/
  path : String
  query : Option String := none
  fragment : Option String := none
  deriving DecidableEq

namespace Url

/-! ## Schemes -/

/-- The special schemes and their ports. -/
def defaultPorts : List (String × Option Nat) :=
  [("http", some 80), ("https", some 443), ("ws", some 80), ("wss", some 443), ("ftp", some 21),
    ("file", none)]

/-- The scheme is special. -/
def isSpecial (scheme : String) : Bool :=
  defaultPorts.any fun e => e.1 == scheme

/-- The port of a scheme. -/
def defaultPort? (scheme : String) : Option Nat :=
  (defaultPorts.find? fun e => e.1 == scheme).bind (·.2)

/-- The scheme before the first colon, and what follows the colon. -/
def splitScheme? (cs : List Char) : Option (String × List Char) :=
  let inScheme (c : Char) := c.isAlphanum || c == '+' || c == '-' || c == '.'
  match cs with
  | [] => none
  | c :: _ =>
    if c.isAlpha then
      match cs.dropWhile inScheme with
      | ':' :: rest =>
        some (Text.lowerAscii (String.ofList (cs.takeWhile inScheme)), rest)
      | _ => none
    else none

/-- The character separates segments. -/
def isSlash (special : Bool) (c : Char) : Bool := c == '/' || (special && c == '\\')

/-! ## Users, hosts and ports -/

/-- The name of a user and a password cannot hold the character. -/
def escapedInCredentials (c : Char) : Bool :=
  escapedInPath c || ['/', ':', ';', '=', '@', '[', '\\', ']', '^', '|'].contains c

/-- The credentials that characters before the last `@` spell; there are none without a name and a
password. -/
def readCredentials (cs : List Char) : Option Credentials :=
  let encode (cs : List Char) := String.ofList (Text.percentEncode escapedInCredentials cs)
  let user := cs.takeWhile (· != ':')
  let password := cs.drop (user.length + 1)
  if user = [] ∧ password = [] then none
  else some ⟨encode user, if password = [] then none else some (encode password)⟩

/-- The credentials, and what follows them; none where nothing but an `@` stands before the end of
the authority.  `followed` says that a query or a fragment comes after the characters. -/
def splitCredentials? (special followed : Bool) (cs : List Char) :
    Option (Option Credentials × List Char) :=
  let authority := cs.takeWhile fun c => !isSlash special c
  if authority.contains '@' then
    let length := (authority.reverse.dropWhile (· != '@')).length
    let rest := cs.drop length
    let ends := (rest.isEmpty && followed) || rest.head?.any (isSlash special)
    if length = 1 ∧ ends then none else some (readCredentials (authority.take (length - 1)), rest)
  else some (none, cs)

/-- The characters of a host: they end at a slash, and at a colon outside brackets. -/
def hostLength (special inBrackets : Bool) : List Char → Nat
  | [] => 0
  | c :: cs =>
    if isSlash special c || (c == ':' && !inBrackets) then 0
    else hostLength special (c == '[' || (inBrackets && c != ']')) cs + 1

/-- The port after a host, and the rest. -/
def splitPort? : List Char → Option (Option Nat × List Char)
  | ':' :: cs =>
    let digits := cs.takeWhile Decimal.isDigit
    let rest := cs.drop digits.length
    if 65535 < Decimal.ofDigits digits ∨ ¬ rest.head?.all (isSlash true) then none
    else some (if digits = [] then none else some (Decimal.ofDigits digits), rest)
  | cs => some (none, cs)

/-- Read what follows the two slashes of a scheme other than that of files, up to query and
fragment. -/
def parseAuthority? (scheme : String) (followed : Bool) (cs : List Char) : Option Url := do
  let special := isSpecial scheme
  let (credentials, cs) ← splitCredentials? special followed cs
  let length := hostLength special false cs
  let host ← if special then specialHost? (cs.take length) else plainHost? (cs.take length)
  let rest := cs.drop length
  if host.isEmpty ∧ (credentials.isSome ∨ rest.head? = some ':') then none
  else
    let (port, rest) ← splitPort? rest
    let port := port.filter fun p => some p ≠ defaultPort? scheme
    let cs := if rest.head?.any (isSlash special) then rest.drop 1 else rest
    let path :=
      if rest = [] ∧ ¬ special then "" else pathText (resolve false [] (splitSegments special cs))
    some { scheme, credentials, host := some host, port, path }

/-! ## Files -/

/-- The address of a file on a host, or on none. -/
def fileOn (host : Option String) (segments : List (List Char)) : Url :=
  let done := resolve true [] segments
  { scheme := "file"
    host := if done.head?.any isDrive then none else host
    path := filePathText done }

/-- Read what follows the scheme of files, up to query and fragment. -/
def parseFile? (cs : List Char) : Option Url :=
  let isSlash := isSlash true
  match cs with
  | a :: b :: rest =>
    if isSlash a && isSlash b then
      let name := rest.takeWhile fun c => !isSlash c
      let after := rest.drop name.length
      if name = [] ∨ isDrive name then some (fileOn none (splitSegments true rest))
      else
        (specialHost? name).map fun host =>
          if host = "localhost" then fileOn none (splitSegments true after)
          else fileOn (some host) (splitSegments true (after.drop 1))
    else some (fileOn none (splitSegments true (if isSlash a then b :: rest else cs)))
  | [a] => some (fileOn none (splitSegments true (if isSlash a then [] else cs)))
  | [] => some (fileOn none (splitSegments true cs))

/-! ## Reading and writing -/

/-- Remove what surrounds an address, and line breaks and tabs inside it. -/
def clean (cs : List Char) : List Char :=
  let outer (c : Char) : Bool := c.toNat ≤ 32
  let cs := ((cs.dropWhile outer).reverse.dropWhile outer).reverse
  cs.filter fun c => c ≠ '\t' ∧ c ≠ '\n' ∧ c ≠ '\r'

/-- Characters before a mark, and those after it if it is there. -/
def splitAt (mark : Char) (cs : List Char) : List Char × Option (List Char) :=
  let head := cs.takeWhile (· != mark)
  if head.length < cs.length then (head, some (cs.drop (head.length + 1))) else (head, none)

/-- Read what follows the scheme and comes before query and fragment. -/
def parseBody? (scheme : String) (followed : Bool) (cs : List Char) : Option Url :=
  if scheme = "file" then parseFile? cs
  else if isSpecial scheme then parseAuthority? scheme followed (cs.dropWhile (isSlash true))
  else
    match cs with
    | '/' :: '/' :: rest => parseAuthority? scheme followed rest
    | '/' :: rest =>
      some { scheme, path := pathText (resolve false [] (splitSegments false rest)) }
    | cs => some { scheme, path := String.ofList (Text.percentEncode Text.isControl cs) }

/-- A query cannot hold the character. -/
def escapedInQuery (special : Bool) (c : Char) : Bool :=
  Text.isControl c || [' ', '"', '#', '<', '>'].contains c || (special && c == '\x27')

/-- Read an absolute address. -/
def parse? (s : String) : Option Url :=
  match splitScheme? (clean s.toList) with
  | none => none
  | some (scheme, rest) =>
    let (rest, fragment) := splitAt '#' rest
    let (rest, query) := splitAt '?' rest
    (parseBody? scheme (query.isSome || fragment.isSome) rest).map fun url =>
      { url with
        query := query.map fun cs =>
          String.ofList (Text.percentEncode (escapedInQuery (isSpecial scheme)) cs)
        fragment := fragment.map fun cs =>
          String.ofList (Text.percentEncode escapedInFragment cs) }

/-- What comes between the scheme and the path. -/
def authorityText (u : Url) : String :=
  match u.host with
  | some host =>
    let credentials :=
      match u.credentials with
      | some ⟨user, some password⟩ => user ++ ":" ++ password ++ "@"
      | some ⟨user, none⟩ => user ++ "@"
      | none => ""
    let port :=
      match u.port with
      | some port => ":" ++ Decimal.ofNat port
      | none => ""
    "//" ++ credentials ++ host ++ port
  | none => if u.scheme = "file" then "//" else if u.path.startsWith "//" then "/." else ""

/-- The written form. -/
def toText (u : Url) : String :=
  u.scheme ++ ":" ++ u.authorityText ++ u.path ++
    (match u.query with
      | some query => "?" ++ query
      | none => "") ++
    (match u.fragment with
      | some fragment => "#" ++ fragment
      | none => "")

/-- A request can go to the address. -/
def isHttp (u : Url) : Bool := u.scheme == "http" || u.scheme == "https"

/-- The text is percent-encoded UTF-8. -/
def isReadable (s : String) : Bool :=
  (Text.ofUtf8? (Text.percentDecode (Text.utf8 s.toList))).isSome

/-- The address without the credentials, which a request carries elsewhere.  They stay where they are
if the name cannot be read, or if there is only a password that cannot be read. -/
def withoutCredentials (u : Url) : Url :=
  match u.credentials with
  | some ⟨user, password⟩ =>
    if isReadable user && (user != "" || password.any isReadable) then { u with credentials := none }
    else u
  | none => u

end Url

end JobNode
