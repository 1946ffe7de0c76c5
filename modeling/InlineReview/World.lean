import InlineReview.Deadline.Token
import InlineReview.FileStore
import InlineReview.Journal.Entry
import InlineReview.Lint.Command
import InlineReview.Remote.Exchange

/-!
# The world of a run

What a run finds outside of itself and what it leaves there: files, the replies of the services
in the order in which they will come, the doings of the linter, the time, the cancellation token,
and the requests, commands and entries so far.  A command counts from when it is given, whether it
can be started or not.
-/

namespace InlineReview

/-- What happens when the linter is to be started: what interrupts the run, why the linter does not
start, and otherwise its report, its status and the octets that it writes. -/
structure LintRun where
  interrupt : Interrupt := {}
  startFault : Option FileCause := none
  report : Option (List UInt8) := none
  status : Int := 0
  output : List UInt8 := []
  complaints : List UInt8 := []
  deriving DecidableEq, Repr

/-- What the linter does when nothing else is planned: it finds nothing. -/
def LintRun.last : LintRun := { report := some (Text.Utf8.encode ['[', ']']) }

/-- The world of a run.  A signal reaches the token if the run handles signals, and a
cancellation by the caller if the caller holds the token. -/
structure World where
  files : FileStore := []
  hostReplies : List Reply := []
  modelReplies : List Reply := []
  lintRuns : List LintRun := []
  now : Rat := 0
  token : Token := {}
  handlesSignals : Bool := false
  sharesToken : Bool := false
  sent : List Request := []
  commands : List Command := []
  journal : List Entry := []

namespace World

/-- The reason of a cancellation by a signal. -/
def signalReason (signal : String) : String := s!"Review run cancelled by {signal}"

/-- What an interrupt does. -/
def interrupt (i : Interrupt) (w : World) : World :=
  let onSignal (t : Token) : Token :=
    match i.signal with
    | some signal => if w.handlesSignals then t.cancel (signalReason signal) else t
    | none => t
  let onCancel (t : Token) : Token :=
    match i.cancel with
    | some reason => if w.sharesToken then t.cancel reason else t
    | none => t
  { w with token := onCancel (onSignal w.token) }

/-- The replies that a service has left. -/
def replies (w : World) : Remote → List Reply
  | .codeHost => w.hostReplies
  | .model => w.modelReplies

/-- The world without the next reply of a service. -/
def dropReply (w : World) : Remote → World
  | .codeHost => { w with hostReplies := w.hostReplies.tail }
  | .model => { w with modelReplies := w.modelReplies.tail }

/-- The reply that comes for a request. -/
def replyFor (w : World) (request : Request) : Reply :=
  ((w.replies request.remote).head?).getD (Reply.last request.method)

/-- The world after a request has arrived. -/
def receive (w : World) (request : Request) : World :=
  { (w.dropReply request.remote) with sent := w.sent ++ [request] }.interrupt
    (w.replyFor request).interrupt

/-- The world some seconds later: an alarm that has come due has gone off. -/
def pass (seconds : Rat) (w : World) : World :=
  let now := w.now + seconds
  { w with now, token := w.token.atTime now }

/-- What the linter does next. -/
def nextLintRun (w : World) : LintRun := w.lintRuns.head?.getD LintRun.last

end World

end InlineReview
