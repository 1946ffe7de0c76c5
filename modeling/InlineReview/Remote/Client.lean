import InlineReview.Deadline.Supervision
import InlineReview.Json.Writer
import InlineReview.Text.Search
import InlineReview.Web.Base64

/-!
# Clients of the remote services

A client knows the base address of a service and the headers that go with every request.  A call
puts a request together, which may fail, sends it, and draws its conclusion from the response.
-/

namespace InlineReview

open Text

/-- A client of a remote service.  One that was lent is not closed by its borrower. -/
structure Client where
  remote : Remote
  base : Base
  headers : List (String × String)
  isLent : Bool := false
  isOpen : Bool := true
  deriving DecidableEq, Repr

/-- A call to a remote service: its request, and what the response means. -/
structure Call (α : Type) where
  request : Except Failure Request
  conclude : Response → Except Failure α

namespace Client

/-- The kind of body that is sent. -/
def jsonHeader : String × String := ("content-type", "application/json")

/-- Refuses the first header whose value is not ASCII. -/
def checkHeaders : List (String × String) → Except Failure Unit
  | [] => .ok ()
  | (_, value) :: rest =>
    match EncodeFault.of? .ascii value.toList with
    | some fault => .error (.unwritable fault)
    | none => checkHeaders rest

/-- A client for a base address, whose slashes at the end do not count.  The HTTP library reads the
addresses of proxies and the places of certificates from further variables of the environment when
a client is made, and fails at one that it cannot use.  These are taken to be unset: an address or
a header is the only thing that can be wrong here. -/
def create (remote : Remote) (address : String) (headers : List (String × String)) :
    Except Failure Client := do
  let base ← (Base.read (String.ofList (dropTrailing '/' address.toList))).mapError .address
  checkHeaders headers
  pure { remote, base, headers }

/-- A client that was lent: it is used as it is. -/
def lent (remote : Remote) (address : String) (headers : List (String × String)) :
    Except Failure Client := do
  let base ← (Base.read address).mapError .address
  pure { remote, base, headers, isLent := true }

/-- The client after it is no longer needed. -/
def close (c : Client) : Client := if c.isLent then c else { c with isOpen := false }

/-- The header that shows credentials. -/
def credentialsHeader (octets : List UInt8) : String × String :=
  ("authorization", "Basic " ++ String.ofList (Web.Base64.encode octets))

/-- The headers of a request: the client's own, then what tells of a body, then the credentials in
the address, each in place of an earlier header of its name. -/
def headersFor (c : Client) (hasBody : Bool) : List (String × String) :=
  let added := (if hasBody then [jsonHeader] else []) ++
    (c.base.credentials.map credentialsHeader).toList
  Assoc.putAll added c.headers

/-- Refuses a body that UTF-8 cannot write. -/
def checkBody (body : Option Json) : Except EncodeFault Unit :=
  match body.bind fun v => EncodeFault.of? .utf8 v.plainL with
  | some fault => .error fault
  | none => .ok ()

/-- A request of a client. -/
def request (c : Client) (method : Method) (path : String) (parameters : Option String)
    (body : Option Json) : Except Failure Request := do
  if ! c.isOpen && c.remote = .codeHost then throw (.closed .codeHost)
  let address ← (c.base.request path parameters).mapError .address
  (checkBody body).mapError .unwritable
  (Base.checkHeader address).mapError .unwritable
  if ! c.isOpen then throw (.closed c.remote)
  (Base.checkName address).mapError .hostName
  let url := String.ofList address.text
  pure { remote := c.remote, method, url, body, headers := c.headersFor body.isSome }

end Client

namespace Call

variable {α : Type}

/-- The result of a reply to a request.  A response is of no use if the address of the request
has no scheme. -/
def resultOf (call : Call α) (request : Request) (reply : Reply) : Except Failure α :=
  match reply.result with
  | .error fault => .error (.transport fault)
  | .ok response =>
    if Base.hasKind request.url.toList then call.conclude response
    else .error (.unknownKind request.url)

/-- Sends the request of a call. -/
def start (call : Call α) : Run (Pending α) := do
  let request ← Run.ofExcept id call.request
  let reply ← Run.send request
  pure { delay := reply.delay, result := call.resultOf request reply }

/-- Makes a call and waits for its result. -/
def perform (call : Call α) : Run α := Run.await call.start

end Call

end InlineReview
