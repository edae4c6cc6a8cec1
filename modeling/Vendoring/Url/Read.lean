import Vendoring.Url.Basic
import Vendoring.Url.Host
import Vendoring.Url.Path

/-!
# Reading URLs

A text is read as a URL in the forgiving way of the web: blanks at its ends and line breaks
anywhere are dropped, slashes too many or too few behind a web scheme do not matter, and what may
not stand in a part is escaped there. What cannot be repaired is a missing scheme, or a host or
port that is none.
-/

set_option autoImplicit false

namespace Vendoring.Url

/-- A character that does not count at the ends of a text. -/
def isEdge (c : Char) : Bool := c.toNat ≤ 0x20

/-- A character that does not count anywhere. -/
def isLineOrTab (c : Char) : Bool := c = '\t' || c = '\n' || c = '\r'

/-- What counts of a text. -/
def cleaned (cs : List Char) : List Char :=
  ((cs.dropWhile isEdge).reverse.dropWhile isEdge).reverse.filter (!isLineOrTab ·)

/-- What stands before and behind the first `mark`, if there is one. -/
def splitAtMark (mark : Char) (cs : List Char) : List Char × Option (List Char) :=
  match cs.dropWhile (· ≠ mark) with
  | [] => (cs, none)
  | _ :: rest => (cs.takeWhile (· ≠ mark), some rest)

/-! ## Authority -/

/-- The user and password in front of the last `@` of an authority, and what is behind it. -/
def splitUser (cs : List Char) : Option (List Char) × List Char :=
  let backwards := cs.reverse
  match backwards.dropWhile (· ≠ '@') with
  | [] => (none, cs)
  | _ :: user => (some user.reverse, (backwards.takeWhile (· ≠ '@')).reverse)

/-- User and password as they are written, with the `@` unless both are empty. -/
def userChars (user : List Char) : List Char :=
  let (name, password) := splitAtMark ':' user
  let name := percentEncode escapedInUser name
  let password := percentEncode escapedInUser (password.getD [])
  if name.isEmpty && password.isEmpty then []
  else name ++ (if password.isEmpty then [] else ':' :: password) ++ ['@']

/-- What stands before and behind the first colon that is not in brackets. -/
def splitPort (inside : Bool) : List Char → List Char × Option (List Char)
  | [] => ([], none)
  | c :: cs =>
    if c = ':' && !inside then ([], some cs)
    else
      let (host, port) := splitPort (c = '[' || (inside && c ≠ ']')) cs
      (c :: host, port)

/-- The greatest port. -/
def maxPort : Nat := 65535

/-- A port as it is written, with its colon, unless it is empty or the default one. -/
def portChars (default? : Option Nat) (digits : List Char) : Except Fault (List Char) :=
  match digits with
  | [] => .ok []
  | _ =>
    match ofDigits? 10 digits with
    | some port =>
      if maxPort < port then .error .invalidPort
      else if some port = default? then .ok []
      else .ok (':' :: Nat.toDigits 10 port)
    | none => .error .invalidPort

/-- The authority of a URL with a web scheme. -/
def webAuthority (defaultPort : Nat) (cs : List Char) : Except Fault (List Char) := do
  let (user, rest) := splitUser cs
  let (host, port) := splitPort false rest
  if user = some [] && rest.isEmpty then throw .emptyHost
  let host ← specialHost host
  let port ← portChars (some defaultPort) (port.getD [])
  pure (userChars (user.getD []) ++ host ++ port)

/-- The authority of a URL with another scheme, and what follows its port instead of a slash. -/
def otherAuthority (cs : List Char) : Except Fault (List Char × List Char) := do
  let (user, rest) := splitUser cs
  if user = some [] && rest.isEmpty then throw .emptyHost
  let (host, port) := splitPort false rest
  let host ← otherHost host
  let user := userChars (user.getD [])
  if host.isEmpty && (port.isSome || !user.isEmpty) then throw .emptyHost
  let port := port.getD []
  let digits := port.takeWhile (· ≠ '\\')
  pure (user ++ host ++ (← portChars none digits), port.drop digits.length)

/-! ## What is behind the scheme -/

/-- Authority and path. -/
abbrev Place := Option (List Char) × List Char

/-- What follows a first slash, or the whole if there is none. -/
def behindSlash (kind : SchemeKind) (cs : List Char) : List Char :=
  match cs with
  | c :: rest => if kind.isSlash c then rest else cs
  | [] => []

/-- Authority and path behind a web scheme. -/
def webPlace (defaultPort : Nat) (cs : List Char) : Except Fault Place := do
  let kind := SchemeKind.web defaultPort
  let cs := cs.dropWhile kind.isSlash
  let authority := cs.takeWhile (!kind.isSlash ·)
  let path := cs.drop authority.length
  pure (some (← webAuthority defaultPort authority),
    pathChars (readSegments kind (behindSlash kind path)))

/-- The host of a file's URL, of which `localhost` is the same as none. -/
def fileHost (cs : List Char) : Except Fault HostText :=
  match cs with
  | [] => .ok []
  | '[' :: _ => bracketedHost cs
  | _ => (namedHost cs).map fun host => if host = "localhost".toList then [] else host

/-- Authority and path behind `file:`. A host in front of a drive letter does not count. -/
def filePlace (cs : List Char) : Except Fault Place := do
  let kind := SchemeKind.file
  match cs with
  | a :: b :: rest =>
    if kind.isSlash a && kind.isSlash b then
      let host := rest.takeWhile (!kind.isSlash ·)
      if isDriveLetter host then pure (some [], pathChars (readFileSegments rest))
      else
        let path := behindSlash kind (rest.drop host.length)
        let host ← fileHost host
        pure (some (if startsWithDrive path then [] else host), pathChars (readFileSegments path))
    else pure (some [], pathChars (readFileSegments (behindSlash kind cs)))
  | _ => pure (some [], pathChars (readFileSegments (behindSlash kind cs)))

/-- Authority and path behind another scheme. Without any slash the path is no list of segments. -/
def otherPlace (cs : List Char) : Except Fault Place := do
  match cs with
  | '/' :: '/' :: rest =>
    let given := rest.takeWhile (· ≠ '/')
    let (authority, extra) ← otherAuthority given
    let path := extra ++ rest.drop given.length
    pure (some authority,
      if path.isEmpty then [] else pathChars (readSegments .other (behindSlash .other path)))
  | '/' :: rest => pure (none, pathChars (readSegments .other rest))
  | _ => pure (none, percentEncode isControl cs)

/-- Authority and path behind a scheme. -/
def place (kind : SchemeKind) (cs : List Char) : Except Fault Place :=
  match kind with
  | .web defaultPort => webPlace defaultPort cs
  | .file => filePlace cs
  | .other => otherPlace cs

/-- The URL that characters stand for. -/
def ofChars (cs : List Char) : Except Fault Url :=
  match splitScheme? (cleaned cs) with
  | none => .error .relative
  | some (scheme, rest) => do
    let kind := SchemeKind.ofScheme scheme
    let (before, fragment) := splitAtMark '#' rest
    let (hierarchy, query) := splitAtMark '?' before
    let (authority, path) ← place kind hierarchy
    pure {
      scheme
      authority
      path
      query := query.map (percentEncode (escapedInQuery kind.isSpecial))
      fragment := fragment.map (percentEncode escapedInFragment) }

/-- The URL that a text stands for. -/
def ofText (s : String) : Except Fault Url := ofChars s.toList

end Vendoring.Url
