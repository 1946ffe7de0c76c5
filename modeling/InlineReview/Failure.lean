import InlineReview.ChangeSet
import InlineReview.Deadline.Seconds
import InlineReview.Event
import InlineReview.Lint.Report
import InlineReview.Remote.Endpoint
import InlineReview.Remote.Exchange
import InlineReview.Review.Excerpt
import InlineReview.Text.Passing

/-!
# Failures of a run

Everything that can make an action fail, as a cause.  `Failure.message` is its wording, and
`Failure.step?` the step of the review that it names.
-/

namespace InlineReview

open Text

/-- What the code host refuses, with the status and the body of its response. -/
inductive HostFault where
  | refused (path : String) (status : Nat) (body : Json)
  | notListing (status : Nat) (body : Json)
  deriving Repr

namespace HostFault

/-- The wording of a fault. -/
def message : HostFault → String
  | .refused path status _ => s!"GitHub API request to {path} failed with status {status}."
  | .notListing _ _ => "Unexpected response while listing pull request files."

/-- The status of the response. -/
def status : HostFault → Nat
  | .refused _ status _ => status
  | .notListing status _ => status

/-- The body of the response. -/
def body : HostFault → Json
  | .refused _ _ body => body
  | .notListing _ body => body

end HostFault

/-- What is wrong with the model's response. -/
inductive ModelFault where
  | notJson
  | refused (status : Nat) (detail : Json)
  deriving Repr

/-- The wording of a fault. -/
def ModelFault.message : ModelFault → String
  | .notJson => "Gemini returned a non-JSON response body."
  | .refused status detail =>
    s!"Failed to generate content: status={status}, detail={detail.text}"

/-- Why the linter gives no results. -/
inductive LintFault where
  | notStarted (linter : String) (fault : FileFault)
  | noReport (path : String) (fault : FileFault)
  | malformed (path : String) (m : Json.Malformed)
  | notArray
  deriving DecidableEq, Repr

/-- The wording of a fault. -/
def LintFault.message : LintFault → String
  | .notStarted linter fault => s!"Unable to start ESLint ({linter}): {fault.message}"
  | .noReport path fault => s!"ESLint report not found at {path}: {fault.message}"
  | .malformed path m => s!"ESLint report at {path} is not valid JSON: {m.message}"
  | .notArray => LintResult.ReportFault.notArray.message

/-- What makes an action fail. -/
inductive Failure where
  | numeral (fault : Numeral.Fault)
  | shape (fault : ShapeFault)
  | place (fault : PlaceFault)
  | file (fault : FileFault)
  | event (fault : EventFault)
  | lint (fault : LintFault)
  | decoding (fault : DecodeFault)
  | document (fault : Json.ReadFault)
  | charset (fault : CharsetFault)
  | repositoryName (name : String)
  | address (fault : AddressFault)
  | unwritable (fault : EncodeFault)
  | unpassable (fault : PassFault)
  | unshown (fault : Json.ShowFault)
  | hostName (fault : NameFault)
  | unknownKind (url : String)
  | transport (fault : TransportFault)
  | host (fault : HostFault)
  | model (fault : ModelFault)
  | closed (remote : Remote)
  | cancelled (reason : String)
  | deadline (timeout : Option String)
  | uncountable
  | aborted
  | notPullRequest
  | described (message : String)
  deriving Repr

namespace Failure

/-- The wording of a failure. -/
def message : Failure → String
  | .numeral fault => fault.message
  | .shape fault => fault.message
  | .place fault => fault.message
  | .file fault => fault.message
  | .event fault => fault.message
  | .lint fault => fault.message
  | .decoding fault => fault.message
  | .document fault => fault.message
  | .charset fault => fault.message
  | .repositoryName name => s!"Repository full name '{name}' is invalid."
  | .address fault => fault.message
  | .unwritable fault => fault.message
  | .unpassable fault => fault.message
  | .unshown fault => fault.message
  | .hostName fault => fault.message
  | .unknownKind url =>
    let body := url.toList
    let shown := if body.getLast? = some '#' then body.dropLast else body
    s!"unknown url type: {String.ofList (quotedL shown)}"
  | .transport fault => fault.message
  | .host fault => fault.message
  | .model fault => fault.message
  | .closed .codeHost => "'NoneType' object has no attribute 'request'"
  | .closed .model => "Cannot send a request, as the client has been closed."
  | .cancelled reason => reason
  | .deadline none => ""
  | .deadline (some timeout) => s!"Call did not complete within {timeout}s"
  | .uncountable => "int too large to convert to float"
  | .aborted => ""
  | .notPullRequest => "Event is not a pull request"
  | .described message => message

/-- The step of the review that a failure names. -/
def step? : Failure → Option String
  | .notPullRequest => some "load_event"
  | _ => none

/-- The failure of a body that cannot be read. -/
def ofBodyFault : Json.BodyFault → Failure
  | .undecodable fault => .decoding fault
  | .unreadable fault => .document fault

/-- The failure of a response whose detail cannot be read. -/
def ofDetailFault : Response.DetailFault → Failure
  | .limit passed => .document (.limit passed)
  | .charset fault => .charset fault

/-- The failure of a list of changed files that cannot be read. -/
def ofChangeFault : ChangeFault → Failure
  | .shape fault => .shape fault
  | .numeral fault => .numeral fault

/-- The failure of a report that cannot be read. -/
def ofReportFault : LintResult.ReportFault → Failure
  | .notArray => .lint .notArray
  | .shape fault => .shape fault
  | .unshown fault => .unshown fault

/-- Was the run cancelled? -/
def isCancelled : Failure → Bool
  | .cancelled _ => true
  | _ => false

end Failure

end InlineReview
