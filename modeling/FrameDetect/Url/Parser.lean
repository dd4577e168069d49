import FrameDetect.Url.Basic
import FrameDetect.Url.Host
import FrameDetect.Url.Path

/-!
# Reading URLs

A URL is read from left to right: scheme, authority, path, query and fragment.  A few schemes are
special: they always have a host and a path, take backslashes for slashes and have a default port.
-/

namespace FrameDetect.Url

/-- The kinds of schemes. -/
inductive Kind where
  | special
  | file
  | general
deriving Repr, DecidableEq

/-- The kind of a scheme. -/
def kind (scheme : String) : Kind :=
  if scheme = "file" then .file
  else if ["http", "https", "ws", "wss", "ftp"].contains scheme then .special
  else .general

/-- The port that is left out. -/
def defaultPort? (scheme : String) : Option Nat :=
  [("http", 80), ("https", 443), ("ws", 80), ("wss", 443), ("ftp", 21)].lookup scheme

/-- The text without control characters and spaces at its ends, and without tabs and line ends. -/
def cleaned (cs : List Char) : List Char :=
  let outer (c : Char) : Bool := c.toNat ≤ 0x20
  let trimmed := ((cs.dropWhile outer).reverse.dropWhile outer).reverse
  trimmed.filter fun c => c != '\t' && c != '\n' && c != '\r'

/-- The scheme of a text in lower case, and what follows its colon. -/
def splitScheme? (cs : List Char) : Option (String × List Char) :=
  let (word, rest) := cs.span (· != ':')
  let valid := match word with
    | first :: more =>
      first.isAlpha && more.all fun c => c.isAlphanum || c = '+' || c = '-' || c = '.'
    | [] => false
  match rest with
  | _ :: rest => if valid then some (String.ofList (word.map Char.toLower), rest) else none
  | [] => none

/-- Whether a character ends the authority. -/
def endsAuthority (special : Bool) (c : Char) : Bool :=
  c = '/' || c = '?' || c = '#' || (special && c = '\\')

/-- The text before the last character `mark`, if there is one, and the text after it. -/
def splitLast? (mark : Char) (cs : List Char) : Option (List Char × List Char) :=
  let (after, before) := cs.reverse.span (· != mark)
  match before with
  | _ :: before => some (before.reverse, after.reverse)
  | [] => none

/-- A user and a password, with the sign that follows them unless both are empty. -/
def userText (cs : List Char) : List Char :=
  let (user, rest) := cs.span (· != ':')
  let name := encode userSet user
  let password := encode userSet (rest.drop 1)
  let both := if password.isEmpty then name else name ++ ':' :: password
  if both.isEmpty then [] else both ++ ['@']

/-- The host of an authority and what follows it: a colon divides them unless it stands between
brackets. -/
def splitHost (inBrackets : Bool) : List Char → List Char × List Char
  | [] => ([], [])
  | c :: rest =>
    if c = ':' ∧ !inBrackets then ([], c :: rest)
    else
      let inside := if c = '[' then true else if c = ']' then false else inBrackets
      let (host, after) := splitHost inside rest
      (c :: host, after)

/-- A port in decimal, at most 65535.  No digits mean no port. -/
def port? : List Char → Option (Option Nat)
  | [] => some none
  | digits =>
    if digits.all Char.isDigit then
      match numberIn? 10 digits with
      | some port => if port ≤ 65535 then some (some port) else none
      | none => none
    else none

/-- The port as it is written after the host. -/
def portText (scheme : String) (port : Option Nat) : List Char :=
  match port with
  | some port => if defaultPort? scheme = some port then [] else ':' :: Nat.toDigits 10 port
  | none => []

/-- The authority of a scheme that is not `file`, where `more` tells whether anything follows it, and the
rest of the text, since a backslash ends a port.  An empty host has neither a port nor a user, and no
bare user sign before what follows. -/
def authority? (scheme : String) (cs : List Char) (more : Bool) : Option (String × List Char) := do
  let special := kind scheme = .special
  let (user, place) := match splitLast? '@' cs with
    | some (user, place) => (some user, place)
    | none => (none, cs)
  let (name, after) := splitHost false place
  let host ← if special then domain? name else opaqueHost? name
  let (digits, rest) := (after.drop 1).span (· != '\\')
  let port ← port? digits
  let userPart := userText (user.getD [])
  if host.isEmpty ∧ (!after.isEmpty ∨ special ∨ !userPart.isEmpty ∨ (user = some [] ∧ more)) then none
  else some (String.ofList (userPart ++ host ++ portText scheme port), rest)

/-- The host of a `file` URL; the local host is left out. -/
def fileHost? (cs : List Char) : Option String :=
  if cs.isEmpty then some ""
  else (domain? cs).map fun host =>
    let text := String.ofList host
    if text = "localhost" then "" else text

/-- What follows the path: a query after a question mark and a fragment after a number sign. -/
def tail (special : Bool) (cs : List Char) : Option String × Option String :=
  let (query, fragment) := cs.span (· != '#')
  let set := if special then specialQuerySet else querySet
  let query? := match query with
    | '?' :: query => some (String.ofList (encode set query))
    | _ => none
  let fragment? := match fragment with
    | _ :: fragment => some (String.ofList (encode fragmentSet fragment))
    | [] => none
  (query?, fragment?)

/-- The text before a query or a fragment, and what follows it. -/
def splitPath (cs : List Char) : List Char × List Char := cs.span fun c => c != '?' && c != '#'

/-- A URL whose text after the authority has been split off. -/
def assemble (scheme : String) (authority : Option String) (special : Bool) (cs : List Char) : Url :=
  let (path, rest) := splitPath cs
  let (query, fragment) := tail special rest
  let path := match path with
    | [] => if special then ['/'] else []
    | c :: more =>
      if c = '/' ∨ (special ∧ c = '\\') then pathText special more
      else if authority.isSome ∨ special then pathText special (c :: more)
      else encode [] (c :: more)
  { scheme, authority, path := String.ofList path, query, fragment }

/-- Whether a character divides the parts of a special URL. -/
def isSlash (c : Char) : Bool := c = '/' || c = '\\'

/-- The text after a slash at its start. -/
def dropSlash (cs : List Char) : List Char := if cs.head?.any isSlash then cs.drop 1 else cs

/-- The URL of a file.  Its path has no empty segments at its start, and a drive needs no host. -/
def fileUrl (host : String) (cs : List Char) : Url :=
  let (path, rest) := splitPath cs
  let (query, fragment) := tail true rest
  let segments := fileSegments path
  let text := (['/'].intercalate segments).dropWhile (· = '/')
  { scheme := "file"
    authority := some (if segments.head?.any isDrive then "" else host)
    path := "/" ++ String.ofList text
    query
    fragment }

/-- The URL of a file whose text after the colon is given.  Where a host may be written but none is, the
first segment of the path is empty. -/
def fileUrl? (cs : List Char) : Option Url :=
  match cs with
  | a :: b :: rest =>
    if isSlash a && isSlash b then
      let (place, path) := rest.span fun c => !endsAuthority true c
      if isDrive place then some (fileUrl "" rest)
      else (fileHost? place).map fun host =>
        if host.isEmpty then fileUrl "" path else fileUrl host (dropSlash path)
    else some (fileUrl "" (dropSlash cs))
  | _ => some (fileUrl "" (dropSlash cs))

/-- The URL that a text denotes. -/
def parse? (text : String) : Option Url := do
  let (scheme, rest) ← splitScheme? (cleaned text.toList)
  match kind scheme with
  | .special =>
    let (place, rest) := (rest.dropWhile isSlash).span fun c => !endsAuthority true c
    let (authority, _) ← authority? scheme place !rest.isEmpty
    return assemble scheme (some authority) true rest
  | .file => fileUrl? rest
  | .general =>
    match rest with
    | '/' :: '/' :: rest =>
      let (place, rest) := rest.span fun c => !endsAuthority false c
      let (authority, more) ← authority? scheme place !rest.isEmpty
      return assemble scheme (some authority) false (more ++ rest)
    | rest => return assemble scheme none false rest

end FrameDetect.Url
