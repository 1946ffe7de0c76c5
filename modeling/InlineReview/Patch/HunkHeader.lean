import InlineReview.Decimal.Numeral
import InlineReview.Text.Blank
import InlineReview.Text.Search

/-!
# Hunk headers

A hunk of a unified diff opens with a line `@@ -a,b +c,d @@ heading`: the ranges of lines that it
covers in the old and in the new file, as a first line and a count.  A count that is left out
is one.

A line that is no header is a value, `Malformed`, that says what is wrong with it.  Only a number
can fail outright: a digit may have no decimal value, and a numeral may be too long.
-/

namespace InlineReview

open Text

/-- The header of a hunk. -/
structure HunkHeader where
  oldStart : Nat
  oldCount : Nat
  newStart : Nat
  newCount : Nat
  heading : String
  deriving DecidableEq, Repr

namespace HunkHeader

/-- The mark at both ends of the ranges. -/
def marker : List Char := ['@', '@']

/-- What keeps a line from being a header. -/
inductive Malformed where
  | missingOpening
  | missingClosing
  | missingRanges
  | oldRange (text : String)
  | newRange (text : String)
  deriving DecidableEq, Repr

/-- The wording of what is wrong with a line. -/
def Malformed.reason : Malformed → String
  | .missingOpening => "missing leading @@"
  | .missingClosing => "missing closing @@"
  | .missingRanges => "expected old and new ranges"
  | .oldRange text => s!"invalid old range {quoted text}"
  | .newRange text => s!"invalid new range {quoted text}"

/-- The digits of a first line and those of a count, if there is one. -/
abbrev RangeDigits := List Char × Option (List Char)

/-- Takes a range apart: its sign, digits, and perhaps a comma and more digits. -/
def splitRange? (sign : Char) (token : List Char) : Option RangeDigits :=
  match token with
  | [] => none
  | c :: r =>
    let (start, count) := breakAt ',' r
    if c = sign && allDigits start && count.all allDigits then some (start, count) else none

/-- The numbers of a range. -/
def rangeValue (range : RangeDigits) : Except Numeral.Fault (Nat × Nat) := do
  let start ← Numeral.read range.1
  let count ← match range.2 with
    | some digits => Numeral.read digits
    | none => pure 1
  pure (start, count)

/-- Takes a line apart: the words between its marks, and what follows the second mark. -/
def splitMarks (line : List Char) : Except Malformed (List Char × List Char) :=
  match dropLead? marker line with
  | none => .error .missingOpening
  | some rest =>
    match breakOn? marker rest with
    | none => .error .missingClosing
    | some parts => .ok parts

/-- Reads a line as the header of a hunk. -/
def readL (line : List Char) : Except Numeral.Fault (Except Malformed HunkHeader) :=
  match splitMarks line with
  | .error why => .ok (.error why)
  | .ok (ranges, rest) =>
    match words ranges with
    | [old, new] =>
      match splitRange? '-' old with
      | none => .ok (.error (.oldRange (String.ofList old)))
      | some oldDigits => do
        let (oldStart, oldCount) ← rangeValue oldDigits
        match splitRange? '+' new with
        | none => pure (.error (.newRange (String.ofList new)))
        | some newDigits =>
          let (newStart, newCount) ← rangeValue newDigits
          let heading := String.ofList (trimL rest)
          pure (.ok { oldStart, oldCount, newStart, newCount, heading })
    | _ => .ok (.error .missingRanges)

/-- Reads a line as the header of a hunk. -/
def read (line : String) : Except Numeral.Fault (Except Malformed HunkHeader) := readL line.toList

end HunkHeader

end InlineReview
