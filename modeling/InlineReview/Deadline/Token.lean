/-!
# Cancellation tokens

A token is shared by all calls of a run.  It is cancelled once, with a reason, and stays so with
that reason.  Alarms cancel it at set times.
-/

namespace InlineReview

/-- A cancellation at a set time. -/
structure Alarm where
  due : Rat
  reason : String
  deriving DecidableEq, Repr

/-- A cancellation token: the reason of its cancellation, and the alarms set on it. -/
structure Token where
  reason : Option String := none
  alarms : List Alarm := []
  deriving DecidableEq, Repr

namespace Token

/-- The reason that is given when none is. -/
def defaultReason : String := "Review run cancelled"

/-- Has the token been cancelled? -/
def isCancelled (t : Token) : Bool := t.reason.isSome

/-- Cancels the token, unless it has been cancelled before. -/
def cancel (reason : String) (t : Token) : Token :=
  match t.reason with
  | some _ => t
  | none => { t with reason := some reason }

/-- Sets an alarm. -/
def setAlarm (a : Alarm) (t : Token) : Token := { t with alarms := t.alarms ++ [a] }

/-- The earlier of two alarms, the first of two at the same time. -/
def earlier (a b : Alarm) : Alarm := if b.due < a.due then b else a

/-- The first alarm to come. -/
def firstAlarm? : List Alarm → Option Alarm
  | [] => none
  | a :: rest =>
    match firstAlarm? rest with
    | none => some a
    | some b => some (earlier a b)

/-- When the token is cancelled if nothing but its alarms does it. -/
def cancelTime? (now : Rat) (t : Token) : Option Rat :=
  if t.isCancelled then some now else (firstAlarm? t.alarms).map (·.due)

/-- The token at a time: an alarm that is due has gone off. -/
def atTime (now : Rat) (t : Token) : Token :=
  match firstAlarm? t.alarms with
  | none => t
  | some a => if a.due ≤ now then t.cancel a.reason else t

/-- The reason as a message: an empty one is replaced. -/
def reasonText (t : Token) : String :=
  match t.reason with
  | none | some "" => defaultReason
  | some reason => reason

@[simp] theorem isCancelled_cancel (reason : String) (t : Token) :
    (t.cancel reason).isCancelled = true := by
  cases h : t.reason <;> simp [cancel, isCancelled, h]

@[simp] theorem cancel_cancel (first second : String) (t : Token) :
    (t.cancel first).cancel second = t.cancel first := by
  cases h : t.reason <;> simp [cancel, h]

theorem reason_cancel (reason : String) (t : Token) :
    (t.cancel reason).reason = some (t.reason.getD reason) := by
  cases h : t.reason <;> simp [cancel, h]

end Token

end InlineReview
