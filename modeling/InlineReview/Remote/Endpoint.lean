import InlineReview.Remote.RequestAddress

/-!
# Base addresses

A client has a base address; the address of a request is the base with the path of the request
after it.  Dot segments are resolved over the whole path, what follows a number sign in the base
stays at the end, and what follows one in the path of the request is dropped.
-/

namespace InlineReview

open Text Web

/-- The address before which a client puts nothing, with a target that ends in a slash. -/
structure Base where
  address : RequestAddress
  deriving DecidableEq, Repr

namespace Base

/-- Reads the base address of a client. -/
def read (s : String) : Except AddressFault Base := do
  let address ← RequestAddress.read s.toList
  if address.target.getLast? = some '/' then pure { address }
  else pure { address := ← address.withTarget (address.target ++ ['/']) }

/-- The address of a request: its path after the base, with the given parameters in place of a
query. -/
def request (base : Base) (path : String) (parameters : Option String) :
    Except AddressFault RequestAddress := do
  let asked ← RequestAddress.read path.toList
  let whole ← base.address.withTarget
    (base.address.target ++ asked.target.dropWhile (· == '/'))
  match parameters with
  | none => pure whole
  | some p => whole.withQuery p.toList

/-! ## Credentials -/

/-- The octets for which a written text stands. -/
def plainOctets (s : List Char) : List UInt8 := Utf8.encode (Utf8.decodeReplacing (unescaped 0 s))

/-- The user name and the password in the base, which are the credentials of every request, with a
colon between them, unless both are empty. -/
def credentials (base : Base) : Option (List UInt8) :=
  let (name, password) := breakAt ':' base.address.user
  let password := password.getD []
  if name.isEmpty && password.isEmpty then none
  else some (plainOctets name ++ Utf8.encode [':'] ++ plainOctets password)

/-! ## Sending -/

/-- Refuses a host that the header for it cannot name. -/
def checkHeader (a : RequestAddress) : Except EncodeFault Unit :=
  match EncodeFault.of? .ascii a.hostText with
  | some fault => .error fault
  | none => .ok ()

/-- Refuses a host in Punycode that does not stand for a name. -/
def checkName (a : RequestAddress) : Except NameFault Unit :=
  if startsWith punycodeLead a.host then HostName.check a.host else .ok ()

/-- Is there a scheme, as far as a reader of the whole text can tell? -/
def hasKind (url : List Char) : Bool :=
  let isInside := fun c => c != '/' && c != ':'
  ! (url.takeWhile isInside).isEmpty && (url.dropWhile isInside).head? = some ':'

end Base

end InlineReview
