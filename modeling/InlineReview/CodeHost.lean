import InlineReview.Remote.Client

/-!
# The code host

The calls of the code host that a review needs: to list the changed files of a pull request, to
place a comment on a line of a patch, and to publish a check run.
-/

namespace InlineReview.CodeHost

open Text

/-- The name under which a client introduces itself. -/
def defaultUserAgent : String := "Lint-Reviewer/1.0"

/-- A client of the code host. -/
def client (address token : String) (userAgent : String) : Except Failure Client :=
  Client.create .codeHost address [
    ("user-agent", userAgent),
    ("authorization", s!"Bearer {token}"),
    ("accept", "application/vnd.github+json"),
    ("x-github-api-version", "2022-11-28")]

/-- The most files on one page of a list. -/
def pageSize : Nat := 100

/-- The owner and the name of a repository: what is before its first slash and what is after. -/
def splitName (fullName : String) : Except Failure (String × String) :=
  match breakAt '/' fullName.toList with
  | (_, none) => .error (.repositoryName fullName)
  | (owner, some name) => .ok (String.ofList owner, String.ofList name)

/-- The path of a repository's resource. -/
def resourcePath (fullName rest : String) : Except Failure String := do
  let (owner, name) ← splitName fullName
  pure s!"/repos/{owner}/{name}/{rest}"

/-- Refuses a response that tells of an error: the body is read as JSON if it can be, as text
otherwise, and is null if there is none. -/
def accept (path : String) (response : Response) : Except Failure Response :=
  if ! response.isError then .ok response
  else if response.body.isEmpty then .error (.host (.refused path response.status .null))
  else
    match response.detail with
    | .ok detail => .error (.host (.refused path response.status detail))
    | .error fault => .error (Failure.ofDetailFault fault)

/-- The body of a response as JSON. -/
def bodyOf (response : Response) : Except Failure Json := response.json.mapError Failure.ofBodyFault

/-- A call for a resource, whose result is drawn from a response that is no error. -/
def call {α : Type} (c : Client) (method : Method) (path : Except Failure String)
    (parameters : Option String) (body : Option Json) (conclude : Response → Except Failure α) :
    Call α where
  request := do c.request method (← path) parameters body
  conclude response := do conclude (← accept (← path) response)

/-! ## Changed files -/

/-- The elements of a page. -/
def pageOf (response : Response) : Except Failure (List Json) := do
  match ← bodyOf response with
  | .arr entries => pure entries
  | body => throw (.host (.notListing response.status body))

/-- The call for a page of the changed files. -/
def listPage (c : Client) (fullName : String) (pull : Int) (page : Nat) : Call (List Json) :=
  call c .get (resourcePath fullName s!"pulls/{pull}/files")
    (some s!"per_page={pageSize}&page={page}") none pageOf

/-- The changed files from a page on, up to the first page that is not full. -/
def listFrom (c : Client) (fullName : String) (pull : Int) : (fuel page : Nat) → Run (List Json)
  | 0, _ => pure []
  | fuel + 1, page => do
    let entries ← (listPage c fullName pull page).perform
    if entries.length < pageSize then pure entries
    else return entries ++ (← listFrom c fullName pull fuel (page + 1))

/-- The changed files of a pull request.  There can be no more full pages than replies. -/
def listFiles (c : Client) (fullName : String) (pull : Int) : Run (List Json) := do
  listFrom c fullName pull ((← get).hostReplies.length + 1) 1

/-! ## Comments and check runs -/

/-- The call that places a comment. -/
def createComment (c : Client) (fullName : String) (pull : Int) (commit : Option String)
    (path : String) (position : Int) (body : String) : Call Json :=
  call c .post (resourcePath fullName s!"pulls/{pull}/comments") none
    (some (.obj [("body", .str body), ("commit_id", Json.ofText? commit), ("path", .str path),
      ("position", .int position)]))
    bodyOf

/-- A check run to publish. -/
structure CheckRun where
  name : String
  commit : Option String
  title : String
  summary : String
  text : Option String
  conclusion : String := "neutral"
  deriving DecidableEq, Repr

/-- What is sent to publish a check run: an empty text is left out. -/
def CheckRun.payload (r : CheckRun) : Json :=
  let text := match r.text with
    | none | some "" => []
    | some text => [("text", Json.str text)]
  .obj [("name", .str r.name), ("head_sha", Json.ofText? r.commit), ("status", .str "completed"),
    ("conclusion", .str r.conclusion),
    ("output", .obj ([("title", .str r.title), ("summary", .str r.summary)] ++ text))]

/-- The call that publishes a check run. -/
def createCheckRun (c : Client) (fullName : String) (run : CheckRun) : Call Json :=
  call c .post (resourcePath fullName "check-runs") none (some run.payload) bodyOf

end InlineReview.CodeHost
