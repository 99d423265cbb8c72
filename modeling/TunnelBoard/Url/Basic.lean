import TunnelBoard.Number.Numeral
import TunnelBoard.Url.Host

/-!
# Addresses

An address has a scheme, a user, a host, a port, a path, a query and a fragment,
each of which may be missing.  Reading an address brings it into normal form:
scheme and host in small letters, no port that the scheme implies, no dot
segments, and percent escapes for whatever may not stand in a part.
-/

namespace TunnelBoard

structure Url where
  scheme : Text
  user : Text
  host : Text
  port : Option Int
  path : Text
  query : Option Text
  fragment : Option Text
deriving DecidableEq, Repr

namespace Url

/-!
# Parts
-/

/-- The parts of an address as they are written. -/
structure Parts where
  scheme : Text
  user : Text
  host : Text
  port : Text
  path : Text
  query : Option Text
  fragment : Option Text

/-- The code points of a scheme behind its first letter. -/
def isSchemePoint (c : CodePoint) : Bool :=
  c.isAsciiLetter || c.isAsciiDigit || c = '+' || c = '.' || c = '-'

/-- The scheme in front of a colon, which may be empty, and the rest. -/
def splitScheme (t : Text) : Text × Text :=
  let scheme := t.takeWhile isSchemePoint
  let rest := t.dropWhile isSchemePoint
  match rest with
  | c :: after =>
      if c = ':' && (scheme.head?.elim true CodePoint.isAsciiLetter) then (scheme, after)
      else ([], t)
  | [] => ([], t)

/-- The part between two slashes and the path, and the rest. -/
def splitAuthority (t : Text) : Text × Text :=
  match Text.dropStart? "//" t with
  | none => ([], t)
  | some rest =>
      let inside := fun c : CodePoint => c ≠ '/' && c ≠ '?' && c ≠ '#'
      (rest.takeWhile inside, rest.dropWhile inside)

/-- The part behind a mark, if the text starts with the mark. -/
def behind? (mark : CodePoint) : Text → Option Text
  | [] => none
  | c :: rest => if c = mark then some rest else none

/-- The host and the text of the port, without the colon between them. -/
def splitHost (t : Text) : Text × Text :=
  let (host, rest) :=
    match behind? '[' t, t.cutLast? ']' with
    | some _, some (inner, rest) => (inner ++ "]", rest)
    | _, _ => (t.takeWhile (· ≠ ':'), t.dropWhile (· ≠ ':'))
  (host, (behind? ':' rest).getD rest)

def split (t : Text) : Parts :=
  let (scheme, rest) := splitScheme t
  let (authority, rest) := splitAuthority rest
  let (user, place) := (authority.cutLast? '@').getD ([], authority)
  let (host, port) := splitHost place
  let inPath := fun c : CodePoint => c ≠ '?' && c ≠ '#'
  let path := rest.takeWhile inPath
  let rest := rest.dropWhile inPath
  let query := (behind? '?' rest).map fun q => q.takeWhile (· ≠ '#')
  let fragment := behind? '#' (rest.dropWhile (· ≠ '#'))
  { scheme, user, host, port, path, query, fragment }

/-!
# Normal form
-/

/-- The port that a scheme implies. -/
def impliedPort? (scheme : Text) : Option Int :=
  if scheme = "ftp" then some 21
  else if scheme = "http" || scheme = "ws" then some 80
  else if scheme = "https" || scheme = "wss" then some 443
  else none

/-- The number of a port, unless it is missing or the scheme implies it. -/
def portNumber (scheme port : Text) : Except Flaw (Option Int) :=
  if port.isEmpty then .ok none
  else
    match port.integer? with
    | none => .error (.portNumber port)
    | some n => .ok (if impliedPort? scheme = some n then none else some n)

/-- The flaw of a path, given what stands before it. -/
def pathFlaw? (hasScheme hasAuthority : Bool) (path : Text) : Option Flaw :=
  if hasAuthority then
    if path.isEmpty || path.head? = some ('/' : CodePoint) then none else some .pathWithoutSlash
  else if hasScheme then none
  else if (Text.dropStart? "//" path).isSome then some .pathLikeHost
  else if path.head? = some (':' : CodePoint) then some .pathLikeScheme
  else none

/-- Takes a segment of a path: a dot is dropped, two dots drop the segment before. -/
def takeSegment (taken : List Text) (segment : Text) : List Text :=
  if segment = "." then taken
  else if segment = ".." then
    if taken = [] || taken = [[]] then taken else taken.dropLast
  else taken ++ [segment]

/-- A path without dot segments; a path that has none is kept. -/
def withoutDots (path : Text) : Text :=
  let segments := path.splitOn '/'
  if segments.contains "." || segments.contains ".." then
    Text.join "/" (segments.foldl takeSegment [])
  else path

/-- The visible ASCII characters apart from some. -/
def isVisibleBut (others : Text) (c : CodePoint) : Bool :=
  0x20 < c.val && c.val < 0x7F && !others.contains c

/-- The code points that stand for themselves in a fragment. -/
def isFragmentPoint : CodePoint → Bool := isVisibleBut "\"<>`"

/-- The code points that stand for themselves in a query. -/
def isQueryPoint : CodePoint → Bool := isVisibleBut "\"#<>"

/-- The code points that stand for themselves in a path. -/
def isPathPoint : CodePoint → Bool := isVisibleBut "\"#<>?`\x7b\x7d"

/-- The code points that stand for themselves in the name of a user. -/
def isUserPoint : CodePoint → Bool := isVisibleBut "\"#<>?`\x7b\x7d/;=@[\\]^|"

/-- A part with percent escapes; a code point without bytes is a flaw. -/
def escaped (keep : CodePoint → Bool) (t : Text) : Except Flaw Text :=
  if t.any CodePoint.isSurrogate then .error .unwritable else .ok (Percent.encode keep t)

/-- A part that may be missing with percent escapes. -/
def escapedOption (keep : CodePoint → Bool) : Option Text → Except Flaw (Option Text)
  | none => .ok none
  | some t => (escaped keep t).map some

/-- The normal form of parts. -/
def ofParts (p : Parts) : Except Flaw Url := do
  let scheme := p.scheme.asciiLower
  let user ← escaped isUserPoint p.user
  let host ← normalHost p.host
  let port ← portNumber p.scheme p.port
  let hasScheme := !scheme.isEmpty
  let hasAuthority := !user.isEmpty || !host.isEmpty || port.isSome
  match pathFlaw? hasScheme hasAuthority p.path with
  | some flaw => .error flaw
  | none =>
      let short := if hasScheme || hasAuthority then withoutDots p.path else p.path
      let path ← escaped isPathPoint short
      let query ← escapedOption isQueryPoint p.query
      let fragment ← escapedOption isFragmentPoint p.fragment
      pure { scheme, user, host, port, path, query, fragment }

/-!
# Reading
-/

/-- The greatest number of code points of an address, and of each of its parts. -/
def lengthLimit : Nat := 65536

/-- ASCII characters that do not show. -/
def isControl (c : CodePoint) : Bool := c.val < 0x20 || c.val = 0x7F

/-- The first control character of a text and the number of code points before it. -/
def control? (t : Text) : Option (CodePoint × Nat) :=
  (t.dropWhile fun c => !isControl c).head?.map fun c =>
    (c, (t.takeWhile fun c => !isControl c).length)

def parse (t : Text) : Except Flaw Url :=
  if lengthLimit < t.length then .error .tooLong
  else
    match control? t with
    | some (c, position) => .error (.control c position)
    | none => ofParts (split t)

/-!
# Use
-/

/-- Whether an address says nothing of where it leads to. -/
def isRelative (u : Url) : Bool := u.scheme.isEmpty || u.host.isEmpty

/-- A host as it is written, with brackets around colons. -/
def writtenHost (host : Text) : Text := if host.contains ':' then "[" ++ host ++ "]" else host

def authority (u : Url) : Text :=
  (if u.user.isEmpty then ([] : Text) else u.user ++ "@")
    ++ writtenHost u.host
    ++ (match u.port with
        | none => []
        | some n => ":" ++ Text.ofInt n)

def toText (u : Url) : Text :=
  (if u.scheme.isEmpty then ([] : Text) else u.scheme ++ ":")
    ++ (if u.authority.isEmpty then ([] : Text) else "//" ++ u.authority)
    ++ u.path
    ++ (match u.query with
        | none => []
        | some q => "?" ++ q)
    ++ (match u.fragment with
        | none => []
        | some f => "#" ++ f)

/-- The name and the password of the user in an address, without escapes. -/
def credentials (u : Url) : Text × Text :=
  let (name, password) := (u.user.cut? ':').getD (u.user, [])
  (Percent.decode name, Percent.decode password)

/-!
# Other parts
-/

/-- The parts of an address as they are written. -/
def parts (u : Url) : Parts :=
  { scheme := u.scheme
    user := u.user
    host := writtenHost u.host
    port := u.port.elim [] Text.ofInt
    path := u.path
    query := u.query
    fragment := u.fragment }

def partFlaw? (part : Part) (t : Text) : Option Flaw :=
  if lengthLimit < t.length then some (.partTooLong part)
  else (control? t).map fun (c, position) => .partControl part c position

/-- The parts of an address as they are checked, in order. -/
def checkedParts (u : Url) : List (Part × Text) :=
  [ (.scheme, u.scheme)
  , (.authority, u.authority)
  , (.path, u.path)
  , (.query, u.query.getD [])
  , (.fragment, u.fragment.getD []) ]

/-- The address of parts, unless one of the checked parts has a flaw. -/
def rebuild (checked : List (Part × Text)) (p : Parts) : Except Flaw Url :=
  match checked.findSome? fun (part, t) => partFlaw? part t with
  | some flaw => .error flaw
  | none => ofParts p

/-- The path and query of an address alone, with one slash at the start. -/
def rooted (u : Url) : Except Flaw Url :=
  let path : Text := "/" ++ List.dropWhile (fun c : CodePoint => c = '/') u.path
  rebuild [(.path, path), (.query, u.query.getD [])]
    { scheme := [], user := [], host := [], port := [], path, query := u.query, fragment := none }

/-- The address with another host. -/
def withHost (u : Url) (host : Text) : Except Flaw Url :=
  let host := writtenHost host
  rebuild (u.checkedParts ++ [(.host, host)]) { u.parts with host }

/-- The address with another fragment, given without escapes. -/
def withFragment (u : Url) (fragment : Text) : Except Flaw Url :=
  let u := { u with fragment := some fragment }
  rebuild u.checkedParts u.parts

end Url
end TunnelBoard
