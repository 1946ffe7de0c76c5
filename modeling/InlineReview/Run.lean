import InlineReview.Failure
import InlineReview.Journal.Noting
import InlineReview.World

/-!
# Actions of a run

A `Run α` acts on the world and gives a value or fails; what it did to the world before it failed
remains.
-/

namespace InlineReview

/-- Actions of a run. -/
abbrev Run : Type → Type := ExceptT Failure (StateM World)

namespace Run

variable {α : Type}

/-- The outcome of an action in a world, and the world after it. -/
def outcome (x : Run α) (w : World) : Except Failure α × World := x.run.run w

/-- Gives a value or fails as a given result does. -/
def ofExcept {ε : Type} (wrap : ε → Failure) (x : Except ε α) : Run α :=
  match x with
  | .ok a => pure a
  | .error e => throw (wrap e)

/-! ## The journal -/

/-- Writes an entry. -/
def note (context : Context) (level : Level) (message : String) : Run Unit :=
  modify fun w => { w with journal := w.journal ++ [{ level, message, context }] }

/-- Writes the entries of a computation and takes over its outcome. -/
def ofNoting {ε : Type} (wrap : ε → Failure) (x : Noting ε α) : Run α := do
  let (result, entries) := x.outcome
  modify fun w => { w with journal := w.journal ++ entries }
  ofExcept wrap result

/-- How long any operation takes, as entries tell it: only waiting takes time, and the time of an
operation's own work is not counted. -/
def ownTime : String := "0.000s"

/-- Writes an entry before an operation and one after it, with the failure if it failed. -/
def timed (context : Context) (operation : String) (body : Run α) : Run α := do
  note context .debug s!"Starting {operation}"
  let result ← tryCatch body fun failure => do
    note context .error s!"Failed {operation} after {ownTime}: {failure.message}"
    throw failure
  note context .debug s!"Completed {operation} in {ownTime}"
  pure result

/-- Writes that something succeeded. -/
def noteSuccess (context : Context) (message : String) : Run Unit :=
  note context .info s!"=== SUCCESS: {message} ==="

/-- Writes that something failed, with the text of the error if there is one. -/
def noteFailure (context : Context) (message : String) (error : Option String) : Run Unit :=
  match error with
  | none => note context .error s!"=== FAILURE: {message} ==="
  | some text => note context .error s!"=== FAILURE: {message} | Error: {text} ==="

/-! ## Time and cancellation -/

/-- Waits. -/
def pass (seconds : Rat) : Run Unit := modify (World.pass seconds)

/-- Waits until the run is cancelled; without an alarm to come nothing is waited for. -/
def awaitCancellation : Run Unit := do
  let w ← get
  match w.token.cancelTime? w.now with
  | none => pure ()
  | some time => pass (time - w.now)

/-- Fails if the run has been cancelled. -/
def checkCancelled : Run Unit := do
  let token := (← get).token
  if token.isCancelled then throw (.cancelled token.reasonText)

/-! ## Requests -/

/-- Sends a request; the reply is on its way when it has arrived. -/
def send (request : Request) : Run Reply := do
  let w ← get
  set (w.receive request)
  pure (w.replyFor request)

end Run

end InlineReview
