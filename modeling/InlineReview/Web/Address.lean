import InlineReview.Assoc
import InlineReview.Decimal.Numeral
import InlineReview.Text.Letter
import InlineReview.Web.Host

/-!
# Web addresses

`WebAddress.read?` reads an address of the schemes `http` and `https` as browsers do.  Blanks and
controls around it, tabs and line ends inside it are dropped; a backslash is a slash; any number
of slashes may follow the scheme.  What is kept is a normal form: scheme and host in small
letters, no port that is the scheme's own, a path without dot segments, and escapes for the
characters that an address cannot hold.
-/

namespace InlineReview

open Text

/-- A web address in normal form. -/
structure WebAddress where
  scheme : String
  user : String
  host : String
  port : Option Nat
  path : String
  query : Option String
  fragment : Option String
  deriving DecidableEq, Repr

namespace WebAddress

open Web

/-- The text of an address. -/
def text (a : WebAddress) : String :=
  a.scheme ++ "://" ++ a.user ++ a.host ++
    (match a.port with
      | some n => ":" ++ toString n
      | none => "") ++
    a.path ++
    (match a.query with
      | some q => "?" ++ q
      | none => "") ++
    (match a.fragment with
      | some f => "#" ++ f
      | none => "")

/-- The schemes with the ports that are their own. -/
def schemes : List (String × Nat) := [("http", 80), ("https", 443)]

/-- Drops blanks and controls around an address, and tabs and line ends inside it. -/
def cleaned (s : List Char) : List Char :=
  (trimWhere (fun c => c.toNat ≤ 0x20) s).filter fun c => c != '\t' && c != '\n' && c != '\r'

/-- Is this a slash or a backslash? -/
def isSlash (c : Char) : Bool := c = '/' || c = '\x5c'

/-- Does this character end the part with the host? -/
def endsAuthority (c : Char) : Bool := isSlash c || c = '?' || c = '#'

/-- A scheme, in small letters, and what follows its colon. -/
def splitScheme? (s : List Char) : Option (List Char × List Char) :=
  match breakAt ':' s with
  | (c :: r, some rest) =>
    if c.isAlpha && r.all fun d => d.isAlphanum || d = '+' || d = '-' || d = '.' then
      some ((c :: r).map lowerAscii, rest)
    else none
  | _ => none

/-- The written form of a user name and a password, with the sign after them. -/
def userText (s : List Char) : List Char :=
  let (name, password) := breakAt ':' s
  let password := match password with
    | some (c :: r) => ':' :: escaped userSet (c :: r)
    | _ => []
  let body := escaped userSet name ++ password
  if body.isEmpty then [] else body ++ ['@']

/-- A host and what follows it: a colon inside brackets does not end it. -/
def splitHost : (inside : Bool) → List Char → List Char × List Char
  | _, [] => ([], [])
  | inside, c :: r =>
    if c = ':' && ! inside then ([], c :: r)
    else
      let inside := if c = '[' then true else if c = ']' then false else inside
      let (host, rest) := splitHost inside r
      (c :: host, rest)

/-- A port after its colon; there may be nothing after the colon. -/
def port? (own : Nat) (s : List Char) : Option (Option Nat) :=
  match s with
  | [] => some none
  | _ :: ds =>
    if ds.isEmpty then some none
    else if ! ds.all isAsciiDigit then none
    else
      let n := Numeral.ofDigits (ds.map (·.toNat - 48))
      if 65535 < n then none else some (if n = own then none else some n)

/-- Is this segment a single dot? -/
def isHere (segment : List Char) : Bool :=
  ["." , "%2e"].contains (String.ofList (segment.map lowerAscii))

/-- Is this segment two dots? -/
def isAbove (segment : List Char) : Bool :=
  ["..", "%2e.", ".%2e", "%2e%2e"].contains (String.ofList (segment.map lowerAscii))

/-- Resolves the dot segments of a path after the segments `done`; a dot segment at the end
leaves an empty one. -/
def resolved (done : List (List Char)) : List (List Char) → List (List Char)
  | [] => done
  | segment :: rest =>
    if isAbove segment then
      resolved (done.dropLast ++ if rest.isEmpty then [[]] else []) rest
    else if isHere segment then resolved (done ++ if rest.isEmpty then [[]] else []) rest
    else resolved (done ++ [segment]) rest

/-- The written form of a path. -/
def pathText (s : List Char) : List Char :=
  let body := match s with
    | [] => []
    | c :: r => if isSlash c then r else c :: r
  '/' :: joinWith '/' (resolved [] ((piecesWhere isSlash body).map (escaped pathSet)))

/-- The parts of an address after its host: path, query and fragment. -/
def splitTail (s : List Char) : List Char × Option (List Char) × Option (List Char) :=
  let (front, fragment) := breakAt '#' s
  let (path, query) := breakAt '?' front
  (path, query, fragment)

/-- Reads an address; half of a pair makes it no address. -/
def readL? (s : List Char) : Option WebAddress := do
  if s.any isStandIn then none
  let (scheme, rest) ← splitScheme? (cleaned s)
  let scheme := String.ofList scheme
  let own ← Assoc.get? scheme schemes
  let rest := rest.dropWhile isSlash
  let authority := rest.takeWhile (! endsAuthority ·)
  let (user, hostPort) := splitUser authority
  let (host, port) := splitHost false hostPort
  if host.isEmpty then none
  else
    let host ← hostText? host
    let port ← port? own port
    let (path, query, fragment) := splitTail (rest.drop authority.length)
    pure {
      scheme
      user := String.ofList ((user.map userText).getD [])
      host := String.ofList host
      port
      path := String.ofList (pathText path)
      query := query.map fun q => String.ofList (escaped webQuerySet q)
      fragment := fragment.map fun f => String.ofList (escaped fragmentSet f) }

/-- Reads an address. -/
def read? (s : String) : Option WebAddress := readL? s.toList

end WebAddress

end InlineReview
