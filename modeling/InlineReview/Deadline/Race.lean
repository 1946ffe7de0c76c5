/-!
# Races

A call that has been started ends in one of three ways: it finishes, its deadline passes, or it
is cancelled.  The earliest of the three moments decides, and no deadline passes before the call
has started.  A call that finishes at the moment of its cancellation has finished, and a deadline
that passes at that moment does not count; a call that has nothing to wait for finishes under any
deadline.
-/

namespace InlineReview

/-- How a call ends. -/
inductive Finish where
  | call
  | deadline
  | cancellation
  deriving DecidableEq, Repr

namespace Race

/-- Is a moment before another one, which may never come? -/
def isBefore (x : Rat) : Option Rat → Bool
  | none => true
  | some y => x < y

/-- Is a moment not after another one, which may never come? -/
def isUpTo (x : Rat) : Option Rat → Bool
  | none => true
  | some y => x ≤ y

/-- How a call ends that takes `delay` seconds, under a deadline and a cancellation counted from
its start, and when. -/
def finish (delay : Rat) (deadline cancellation : Option Rat) : Finish × Rat :=
  if isUpTo delay cancellation && (delay = 0 || isBefore delay deadline) then (.call, delay)
  else
    match cancellation, deadline.map fun d => if d < 0 then 0 else d with
    | some c, some d => if c ≤ d then (.cancellation, c) else (.deadline, d)
    | some c, none => (.cancellation, c)
    | none, some d => (.deadline, d)
    | none, none => (.call, delay)

end Race

end InlineReview
