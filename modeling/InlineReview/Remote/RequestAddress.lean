import InlineReview.Assoc
import InlineReview.Decimal.Reading
import InlineReview.Remote.HostName
import InlineReview.Text.Unwritable
import InlineReview.Web.Host

/-!
# Addresses of requests in their parts

`AddressText` holds the parts of an address as they are written, and `RequestAddress.ofParts`
brings them into normal form: scheme and host in small letters, no port that is the scheme's own,
dot segments resolved, and escapes for the characters that an address cannot hold.  Every part may
be missing, and nothing is said about which schemes there are.
-/

namespace InlineReview

open Text Web

/-- Why an address is invalid. -/
inductive AddressFault where
  | tooLong
  | longPart (name : String)
  | control (c : Char) (position : Nat)
  | badPort (port : List Char)
  | badNumber32 (host : List Char)
  | badNumber128 (host : List Char)
  | badName (host : List Char)
  | twoSlashes
  | colon
  | unwritable (fault : EncodeFault)
  deriving DecidableEq, Repr

/-- The wording of a fault. -/
def AddressFault.message : AddressFault → String
  | .tooLong => "URL too long"
  | .longPart name => s!"URL component '{name}' too long"
  | .control c position =>
    let shown := quoted (String.singleton c)
    s!"Invalid non-printable ASCII character in URL, {shown} at position {position}."
  | .badPort port => s!"Invalid port: {String.ofList (quotedL port)}"
  | .badNumber32 host => s!"Invalid IPv4 address: {String.ofList (quotedL host)}"
  | .badNumber128 host => s!"Invalid IPv6 address: {String.ofList (quotedL host)}"
  | .badName host => s!"Invalid IDNA hostname: {String.ofList (quotedL host)}"
  | .twoSlashes => "Relative URLs cannot have a path starting with '//'"
  | .colon => "Relative URLs cannot have a path starting with ':'"
  | .unwritable fault => fault.message

/-- The parts of an address as they are written. -/
structure AddressText where
  scheme : List Char
  authority : List Char
  path : List Char
  query : Option (List Char)
  fragment : Option (List Char)
  deriving DecidableEq, Repr

namespace AddressText

/-- The most characters of an address, and of every part of it. -/
def longest : Nat := 65536

/-- Refuses a text that is too long or holds a control character. -/
def check (s : List Char) : Except AddressFault Unit :=
  if longest < s.length then .error .tooLong
  else
    match s.findIdx? fun c => c.toNat < 0x20 || c.toNat = 0x7F with
    | none => .ok ()
    | some i => .error (.control (s.getD i ' ') i)

/-- The scheme before a colon, which may be empty, and what follows it. -/
def splitScheme (s : List Char) : List Char × List Char :=
  match breakAt ':' s with
  | ([], some rest) => ([], rest)
  | (c :: r, some rest) =>
    if c.isAlpha && r.all fun d => d.isAlphanum || d = '+' || d = '-' || d = '.' then
      (c :: r, rest)
    else ([], s)
  | (_, none) => ([], s)

/-- The authority after two slashes, and what follows it. -/
def splitAuthority (s : List Char) : List Char × List Char :=
  match dropLead? ['/', '/'] s with
  | none => ([], s)
  | some rest =>
    let isInside := fun c => c != '/' && c != '?' && c != '#'
    (rest.takeWhile isInside, rest.dropWhile isInside)

/-- A path and the query after it. -/
def splitQuery (s : List Char) : List Char × Option (List Char) := breakAt '?' s

/-- Takes a text apart. -/
def ofText (s : List Char) : AddressText :=
  let (scheme, rest) := splitScheme s
  let (authority, rest) := splitAuthority rest
  let (front, fragment) := breakAt '#' rest
  let (path, query) := splitQuery front
  { scheme, authority, path, query, fragment }

/-- The name of the first part that is too long. -/
def longPart? (t : AddressText) : Option String :=
  let parts := [("scheme", t.scheme), ("authority", t.authority), ("path", t.path),
    ("query", t.query.getD []), ("fragment", t.fragment.getD [])]
  (parts.find? fun (_, part) => longest < part.length).map (·.1)

end AddressText

/-- An address in normal form.  A host of 128 bits is held without its brackets. -/
structure RequestAddress where
  scheme : List Char
  user : List Char
  host : List Char
  port : Option Int
  path : List Char
  query : Option (List Char)
  fragment : Option (List Char)
  deriving DecidableEq, Repr

namespace RequestAddress

/-! ## Parts in normal form -/

/-- The ports that belong to a scheme. -/
def ownPorts : List (String × Int) :=
  [("ftp", 21), ("http", 80), ("https", 443), ("ws", 80), ("wss", 443)]

/-- What is escaped in a host. -/
def hostSet : List Char :=
  [' ', '#', '/', ':', '<', '>', '?', '@', '[', ']', '^']

/-- A part with the characters of a set escaped.  A character that has no octets is refused. -/
def escapedPart (set s : List Char) : Except AddressFault (List Char) :=
  match s.find? isStandIn with
  | some c => .error (.unwritable { encoding := .utf8, first := c, start := 0, count := 1 })
  | none => .ok (escaped set s)

/-- Does a host read as four runs of digits with one character between each two?  That character
may be a digit itself. -/
def readsAsNumber32 (host : List Char) : Bool :=
  let runs := piecesWhere (! isAsciiDigit ·) host
  let between := runs.foldl (fun n run => n + (run.length - 1) / 2) (runs.length - 1)
  runs.all (! ·.isEmpty) && runs.length ≤ 4 && 3 ≤ between

/-- Is this a number of 32 bits in four decimal parts? -/
def isNumber32 (host : List Char) : Bool :=
  match (pieces '.' host).mapM octetValue? with
  | some octets => octets.length = 4
  | none => false

/-- Is this a number of 128 bits, with the name of a network behind a percent sign or without? -/
def isNumber128 (s : List Char) : Bool :=
  match breakAt '%' s with
  | (number, none) => (number128? number).isSome
  | (number, some network) =>
    (number128? number).isSome && ! network.isEmpty && ! network.contains '%'

/-- What is between brackets around a whole host. -/
def insideBrackets? (host : List Char) : Option (List Char) :=
  match host with
  | '[' :: r => if r.getLast? = some ']' then some r.dropLast else none
  | _ => none

/-- The normal form of a host. -/
def normalHost (host : List Char) : Except AddressFault (List Char) :=
  if readsAsNumber32 host then
    if isNumber32 host then .ok host else .error (.badNumber32 host)
  else
    match insideBrackets? host with
    | some inside => if isNumber128 inside then .ok inside else .error (.badNumber128 host)
    | none =>
      if isAscii host then .ok (escaped hostSet (host.map lowerAscii))
      else (HostName.ascii? (Unicode.toLower host)).mapError fun _ => .badName host

/-- The port that a text gives: none for an empty text and for the port of the scheme. -/
def normalPort (scheme port : List Char) : Except AddressFault (Option Int) :=
  if port.isEmpty then .ok none
  else
    match Numeral.readSigned? port with
    | none => .error (.badPort port)
    | some n =>
      .ok (if Assoc.get? (String.ofList scheme) ownPorts = some n then none else some n)

/-- A host, to the last bracket if it starts with one, and what follows it without a colon. -/
def splitPort (s : List Char) : List Char × List Char :=
  let host :=
    if s.head? = some '[' && s.contains ']' then
      (s.reverse.dropWhile (· != ']')).reverse
    else s.takeWhile (· != ':')
  match s.drop host.length with
  | ':' :: port => (host, port)
  | port => (host, port)

/-- Drops single dots and lets two dots take away the segment before them. -/
def stepDots (done : List (List Char)) (segment : List Char) : List (List Char) :=
  if segment = ['.'] then done
  else if segment = ['.', '.'] then if done = [[]] then done else done.dropLast
  else done ++ [segment]

/-- Resolves the dot segments of a path. -/
def resolveDots (path : List Char) : List Char :=
  joinWith '/' ((pieces '/' path).foldl stepDots [])

/-- Refuses a path that would be read as something else where nothing stands before it. -/
def checkBarePath (path : List Char) : Except AddressFault Unit :=
  if startsWith ['/', '/'] path then .error .twoSlashes
  else if startsWith [':'] path then .error .colon
  else .ok ()

/-- Brings the parts of an address into normal form. -/
def ofParts (t : AddressText) : Except AddressFault RequestAddress := do
  let scheme := t.scheme.map lowerAscii
  let (user, hostPort) := splitUser t.authority
  let (host, port) := splitPort hostPort
  let user ← escapedPart (userSet.filter (· != ':')) (user.getD [])
  let host ← normalHost host
  let port ← normalPort scheme port
  let isBare := scheme.isEmpty && user.isEmpty && host.isEmpty && port.isNone
  if isBare then checkBarePath t.path
  let path ← escapedPart pathSet (if isBare then t.path else resolveDots t.path)
  let query ← t.query.mapM (escapedPart querySet)
  let fragment ← t.fragment.mapM (escapedPart fragmentSet)
  pure { scheme, user, host, port, path, query, fragment }

/-- Reads an address. -/
def read (s : List Char) : Except AddressFault RequestAddress := do
  AddressText.check s
  ofParts (AddressText.ofText s)

/-! ## Written forms -/

/-- The host, in brackets if it holds a colon, with the port. -/
def hostText (a : RequestAddress) : List Char :=
  (if a.host.contains ':' then '[' :: a.host ++ [']'] else a.host) ++
    match a.port with
    | none => []
    | some n => ':' :: (toString n).toList

/-- The user and the host. -/
def authority (a : RequestAddress) : List Char :=
  (if a.user.isEmpty then [] else a.user ++ ['@']) ++ a.hostText

/-- A part with a sign before it, nothing if the part is missing. -/
def after (sign : Char) (part : Option (List Char)) : List Char :=
  match part with
  | none => []
  | some s => sign :: s

/-- The path, a slash if it is empty, with the query. -/
def target (a : RequestAddress) : List Char :=
  (if a.path.isEmpty then ['/'] else a.path) ++ after '?' a.query

/-- The text of an address. -/
def text (a : RequestAddress) : List Char :=
  (if a.scheme.isEmpty then [] else a.scheme ++ [':']) ++
    (if a.authority.isEmpty then [] else '/' :: '/' :: a.authority) ++
    a.path ++ after '?' a.query ++ after '#' a.fragment

/-- The parts of an address as they are written. -/
def parts (a : RequestAddress) : AddressText where
  scheme := a.scheme
  authority := a.authority
  path := a.path
  query := a.query
  fragment := a.fragment

/-! ## Other targets -/

/-- Reads changed parts of an address again. -/
def reread (t : AddressText) : Except AddressFault RequestAddress :=
  match t.longPart? with
  | some name => .error (.longPart name)
  | none => ofParts t

/-- The address with another path and query. -/
def withTarget (a : RequestAddress) (target : List Char) : Except AddressFault RequestAddress :=
  let (path, query) := AddressText.splitQuery target
  reread { a.parts with path, query }

/-- The address with another query. -/
def withQuery (a : RequestAddress) (query : List Char) : Except AddressFault RequestAddress :=
  reread { a.parts with query := some query }

end RequestAddress

end InlineReview
