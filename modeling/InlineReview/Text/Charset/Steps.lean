/-!
# Reading step by step

A reader of octets is a state and a step that tells for the octets that are left the next state,
the characters read and how many octets they take.
-/

namespace InlineReview.Text

/-- What a step of a reader gives. -/
structure Taken (σ : Type) where
  state : σ
  chars : List Char
  size : Nat

/-- Reads octets step by step, of which the first `owed` belong to a step already taken; `ended`
gives the characters for the end. -/
def readSteps {σ : Type} (step : σ → UInt8 → List UInt8 → Taken σ) (ended : σ → List Char) :
    (owed : Nat) → σ → List UInt8 → List Char
  | _, st, [] => ended st
  | k + 1, st, _ :: rest => readSteps step ended k st rest
  | 0, st, b :: rest =>
    let taken := step st b rest
    taken.chars ++ readSteps step ended (taken.size - 1) taken.state rest

/-- The state in which a reader comes to the end. -/
def stateAtEnd {σ : Type} (step : σ → UInt8 → List UInt8 → Taken σ) :
    (owed : Nat) → σ → List UInt8 → σ
  | _, st, [] => st
  | k + 1, st, _ :: rest => stateAtEnd step k st rest
  | 0, st, b :: rest =>
    let taken := step st b rest
    stateAtEnd step (taken.size - 1) taken.state rest

end InlineReview.Text
