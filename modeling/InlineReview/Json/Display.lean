import InlineReview.Decimal.Numeral
import InlineReview.Decimal.Shortest
import InlineReview.Json.Basic
import InlineReview.Text.Quoted

/-!
# Showing values in messages

`Json.shown` is how a value appears inside another one: strings between quotes, `None`, `True`
and `False`, a comma and a space between elements.  A whole number with more digits than any
numeral may have cannot be shown, nor can arrays and objects nested beyond `nestingLimit`.
`Json.text` is how a value is put into a message: a string as it is and every other value as it is
shown.
-/

namespace InlineReview.Json

open InlineReview.Text

/-- Why a value cannot be shown. -/
inductive ShowFault where
  | tooDeep
  | numeral (fault : Numeral.Fault)
  deriving DecidableEq, Repr

/-- The wording of a fault. -/
def ShowFault.message : ShowFault → String
  | .tooDeep => "maximum recursion depth exceeded while getting the repr of an object"
  | .numeral fault => fault.message

mutual

/-- A value as it appears inside another one; `depth` is how many containers may still be opened.
What is shown first decides which fault is told. -/
def shownL : (depth : Nat) → Json → Except ShowFault (List Char)
  | _, .null => .ok "None".toList
  | _, .bool b => .ok (if b then "True".toList else "False".toList)
  | _, .int n => ((Numeral.write n).mapError .numeral).map String.toList
  | _, .real d => .ok d.textL
  | _, .str s => .ok (quotedL s.toList)
  | 0, .arr _ | 0, .obj _ => .error .tooDeep
  | depth + 1, .arr elements => return '[' :: (← shownElements depth elements) ++ [']']
  | depth + 1, .obj members => return '\x7b' :: (← shownMembers depth members) ++ ['\x7d']

/-- Elements with a comma and a space between them. -/
def shownElements : (depth : Nat) → List Json → Except ShowFault (List Char)
  | _, [] => .ok []
  | depth, [v] => shownL depth v
  | depth, v :: vs => return (← shownL depth v) ++ ',' :: ' ' :: (← shownElements depth vs)

/-- Members with a comma and a space between them. -/
def shownMembers : (depth : Nat) → List (String × Json) → Except ShowFault (List Char)
  | _, [] => .ok []
  | depth, [(name, v)] => return quotedL name.toList ++ ':' :: ' ' :: (← shownL depth v)
  | depth, (name, v) :: ms =>
    return quotedL name.toList ++ ':' :: ' ' :: (← shownL depth v) ++
      ',' :: ' ' :: (← shownMembers depth ms)

end

/-- A value as it appears inside another one. -/
def shown (v : Json) : Except ShowFault String := (v.shownL nestingLimit).map String.ofList

/-- A value as it is put into a message.  Whatever comes out of a document can be shown; of any
other value that cannot, the fault is told. -/
def text : Json → String
  | .str s => s
  | v =>
    match v.shown with
    | .ok s => s
    | .error fault => fault.message

end InlineReview.Json
