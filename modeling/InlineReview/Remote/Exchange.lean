import InlineReview.Json.Reader
import InlineReview.Web.MediaType

/-!
# Requests and replies

A run talks to two remote services, the code host and the model.  A reply may be a response or a
broken connection, may take a while, and something may happen to the run when the request
arrives.
-/

namespace InlineReview

/-- The services that a run talks to. -/
inductive Remote where
  | codeHost
  | model
  deriving DecidableEq, Repr

/-- What is asked of a service. -/
inductive Method where
  | get
  | post
  deriving DecidableEq, Repr

/-- The name of a method. -/
def Method.name : Method → String
  | .get => "GET"
  | .post => "POST"

/-- A request as it is sent. -/
structure Request where
  remote : Remote
  method : Method
  url : String
  body : Option Json
  headers : List (String × String)
  deriving Repr

/-- What happens to a run at some moment: a signal, or a cancellation by its caller. -/
structure Interrupt where
  signal : Option String := none
  cancel : Option String := none
  deriving DecidableEq, Repr

/-- A response. -/
structure Response where
  status : Nat
  mediaType : Option String
  body : List UInt8
  deriving DecidableEq, Repr

/-- How a connection broke. -/
structure TransportFault where
  kind : String
  message : String
  deriving DecidableEq, Repr

/-- A reply to a request: what happens when the request arrives, the seconds until something comes
back, and what that is. -/
structure Reply where
  interrupt : Interrupt := {}
  delay : Rat := 0
  result : Except TransportFault Response

namespace Response

/-- An empty response of success with a body of ASCII text. -/
def success (body : String) : Response where
  status := 200
  mediaType := none
  body := Text.Utf8.encode body.toList

/-- Does the status tell of an error? -/
def isError (r : Response) : Bool := 400 ≤ r.status

/-- The body as JSON. -/
def json (r : Response) : Except Json.BodyFault Json := Json.ofOctets r.body

/-- The body as text. -/
def text (r : Response) : Except Text.CharsetFault String :=
  (Web.readBody r.mediaType r.body).map String.ofList

/-- Why a body has no detail. -/
inductive DetailFault where
  | limit (passed : Json.Limit)
  | charset (fault : Text.CharsetFault)
  deriving DecidableEq, Repr

/-- The body as JSON if it can be read so, as text otherwise.  A failure is nesting without end, or
a text that cannot be read at all. -/
def detail (r : Response) : Except DetailFault Json :=
  match r.json with
  | .ok v => .ok v
  | .error (.unreadable (.limit (.tooDeep container))) => .error (.limit (.tooDeep container))
  | .error _ =>
    match r.text with
    | .ok s => .ok (.str s)
    | .error fault => .error (.charset fault)

end Response

/-- The reply when no other is left: an empty list for a question, an empty object otherwise. -/
def Reply.last : Method → Reply
  | .get => { result := .ok (Response.success "[]") }
  | .post => { result := .ok (Response.success "\x7b\x7d") }

end InlineReview
