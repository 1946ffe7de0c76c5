import InlineReview.Decimal.Shortest

/-!
# Lengths of time

A length of time is a number of seconds, shown in messages in the notation in which it was given.
-/

namespace InlineReview

/-- A length of time. -/
inductive Seconds where
  | whole (n : Int)
  | real (d : Double)
  deriving DecidableEq, Repr

namespace Seconds

/-- The length in the notation in which it was given. -/
def text : Seconds → String
  | .whole n => toString n
  | .real d => d.text

/-- The number of seconds, none if the time never passes. -/
def toRat? : Seconds → Option Rat
  | .whole n => some n
  | .real (.infinite true) => some (-1)
  | .real d => d.toRat?

/-- Can a clock count so far?  It counts in floating point, and a whole number may be out of its
range. -/
def isCountable : Seconds → Bool
  | .whole n =>
    match Double.ofRatio false n.natAbs 1 with
    | .infinite _ => false
    | _ => true
  | .real _ => true

end Seconds

end InlineReview
