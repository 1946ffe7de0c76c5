import InlineReview.Deadline.Race
import InlineReview.Run

/-!
# Calls under supervision

A call that has started is `Pending`: it will finish with a result after some time, unless its
deadline passes or it is cancelled before.  A guarded call heeds the token of the run: it does
not start once the token is cancelled and is cancelled with it.  A call without guard is only
bound by its deadline, and does not start if that has passed.

A call that is cancelled may linger before it ends, and its supervisor waits for that.  A deadline
that no clock can count makes the supervision fail: a call that has not started never does.
-/

namespace InlineReview

/-- A call that has started. -/
structure Pending (α : Type) where
  delay : Rat := 0
  lingering : Rat := 0
  result : Except Failure α

/-- What has become of a call. -/
inductive CallState where
  | notStarted
  | finished
  | failed
  | cancelled
  deriving DecidableEq, Repr

/-- How the supervision of a call has ended. -/
structure Ending (α : Type) where
  result : Except Failure α
  state : CallState

namespace Pending

variable {α : Type}

/-- The end of a call that has run to its end. -/
def ending (call : Pending α) : Ending α where
  result := call.result
  state := match call.result with
    | .ok _ => .finished
    | .error _ => .failed

/-- The end of a call that was stopped. -/
def stopped (failure : Failure) : Ending α where
  result := .error failure
  state := .cancelled

/-- Is a moment before the end of the supervision, if that is at `elapsed`? -/
def comesBefore (abort : Option Rat) (elapsed : Rat) : Option Rat :=
  abort.bind fun a => if a < elapsed then some a else none

/-- Supervises a guarded call.  `abort` is when the supervisor itself is stopped, if it is: then it
does not wait for the call. -/
def superviseGuarded (timeout : Option Seconds) (abort : Option Rat) (call : Pending α) :
    Run (Ending α) := do
  let w ← get
  let cancellation := (w.token.cancelTime? w.now).map (· - w.now)
  let (finish, elapsed) := Race.finish call.delay (timeout.bind Seconds.toRat?) cancellation
  match comesBefore abort elapsed with
  | some a =>
    Run.pass a
    pure (stopped .aborted)
  | none =>
    Run.pass elapsed
    let linger : Run Unit :=
      Run.pass (((comesBefore abort (elapsed + call.lingering)).map (· - elapsed)).getD
        call.lingering)
    match finish with
    | .call => pure call.ending
    | .cancellation =>
      let reason := (← get).token.reasonText
      linger
      pure (stopped (.cancelled reason))
    | .deadline =>
      linger
      pure (stopped (.deadline (timeout.map Seconds.text)))

/-- Supervises a call without guard. -/
def superviseUnguarded (timeout : Option Seconds) (abort : Option Rat) (call : Pending α) :
    Run (Ending α) := do
  let (finish, elapsed) := Race.finish call.delay (timeout.bind Seconds.toRat?) none
  match comesBefore abort elapsed with
  | some a =>
    Run.pass (a + call.lingering)
    pure (stopped .aborted)
  | none =>
    Run.pass elapsed
    match finish with
    | .call => pure call.ending
    | _ =>
      match comesBefore abort (elapsed + call.lingering) with
      | some a =>
        Run.pass (a - elapsed)
        pure (stopped .aborted)
      | none =>
        Run.pass call.lingering
        pure (stopped (.deadline none))

end Pending

namespace Run

variable {α : Type}

/-- Has a deadline passed before anything starts? -/
def hasPassed (timeout : Option Seconds) : Bool :=
  (timeout.bind Seconds.toRat?).any (· ≤ 0)

/-- Is a deadline out of the range of a clock? -/
def isUncountable (timeout : Option Seconds) : Bool := timeout.any (! ·.isCountable)

/-- The end of a supervision whose call has not started. -/
def refused (failure : Failure) : Ending α where
  result := .error failure
  state := .notStarted

/-- Starts a call and supervises it. -/
def supervise (guarded : Bool) (timeout : Option Seconds) (abort : Option Rat)
    (start : Run (Pending α)) : Run (Ending α) := do
  let token := (← get).token
  if guarded then
    if token.isCancelled then return refused (.cancelled token.reasonText)
    if isUncountable timeout then return refused .uncountable
    (← start).superviseGuarded timeout abort
  else
    if hasPassed timeout then return refused (.deadline none)
    if isUncountable timeout then return refused .uncountable
    (← start).superviseUnguarded timeout abort

/-- The state of a call that was started before and that nobody hears: it has finished if it has
nothing left to wait for. -/
def stateUnheard (call : Pending α) (otherwise : CallState) : CallState :=
  if call.delay = 0 then call.ending.state else otherwise

/-- Supervises a call that was started before.  It is not heard once the token is cancelled, even
if it has nothing left to wait for. -/
def superviseStarted (guarded : Bool) (timeout : Option Seconds) (abort : Option Rat)
    (call : Pending α) : Run (Ending α) := do
  let token := (← get).token
  if guarded then
    if token.isCancelled then
      return { refused (.cancelled token.reasonText) with state := stateUnheard call .notStarted }
    if isUncountable timeout then
      return { refused .uncountable with state := stateUnheard call .cancelled }
    call.superviseGuarded timeout abort
  else
    if isUncountable timeout && ! hasPassed timeout then
      return { refused .uncountable with state := stateUnheard call .notStarted }
    call.superviseUnguarded timeout abort

/-- The result of a call under a deadline. -/
def within (guarded : Bool) (timeout : Option Seconds) (start : Run (Pending α)) : Run α := do
  let ending ← supervise guarded timeout none start
  ofExcept id ending.result

/-- The result of a call without a deadline. -/
def await (start : Run (Pending α)) : Run α := do
  let call ← start
  pass call.delay
  ofExcept id call.result

end Run

end InlineReview
