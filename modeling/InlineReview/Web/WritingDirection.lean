import InlineReview.Unicode.Direction

/-!
# Labels with letters from right to left

In a label with such letters the order in which the characters are shown must be clear.  The rule
asks for a letter at the beginning, for characters of one direction with numbers, signs and marks,
for a letter or a number at the end before any marks, and for numbers of one kind.
-/

namespace InlineReview.Web

open Unicode

/-- How a label breaks the rule. -/
inductive DirectionFault where
  | start
  | against (position : Nat) (leftward : Bool)
  | mixedNumbers
  | ending
  deriving DecidableEq, Repr

/-- Is a character of this direction only shown from right to left? -/
def isLeftward : Direction → Bool
  | .right | .arabic | .arabicNumber => true
  | _ => false

/-- Does a text hold a character that is only shown from right to left? -/
def hasLeftward (label : List Char) : Bool := label.any fun c => isLeftward (direction c)

/-- May a direction occur in a label from right to left, or else in one from left to right? -/
def fits (leftward : Bool) (d : Direction) : Bool :=
  if leftward then d != .left else ! isLeftward d

/-- May a label end in a character of this direction? -/
def mayEnd (leftward : Bool) (d : Direction) : Bool :=
  if leftward then isLeftward d || d = .europeanNumber else d = .left || d = .europeanNumber

/-- Is this the direction of a kind of numbers? -/
def isNumber (d : Direction) : Bool := d = .arabicNumber || d = .europeanNumber

/-- Looks through the rest of a label for a fault: `numbers` is the kind of numbers so far. -/
def faultFrom? (leftward : Bool) :
    (position : Nat) → (numbers : Option Direction) → List Direction → Option DirectionFault
  | _, _, [] => none
  | position, numbers, d :: rest =>
    if ! fits leftward d then some (.against position leftward)
    else if leftward && isNumber d then
      if numbers.any (· != d) then some .mixedNumbers
      else faultFrom? leftward (position + 1) (some d) rest
    else faultFrom? leftward (position + 1) numbers rest

/-- The first fault of a label under the rule. -/
def directionFault? (label : List Char) : Option DirectionFault :=
  let directions := label.map direction
  match directions with
  | [] => none
  | d :: _ =>
    if d != .left && d != .right && d != .arabic then some .start
    else
      let leftward := d != .left
      match faultFrom? leftward 1 none directions with
      | some fault => some fault
      | none =>
        match directions.reverse.dropWhile (· = .mark) with
        | last :: _ => if mayEnd leftward last then none else some .ending
        | [] => some .ending

end InlineReview.Web
