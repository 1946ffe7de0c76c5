import InlineReview.Patch.PatchLine
import InlineReview.Text.Lines

/-!
# Unified diffs

A unified diff onto a file is written as hunks.  Each opens with a header that names the lines of
the old and of the new file that it covers, and its body shows those lines: context and added
lines are in the new file, removed lines only in the old one, and a marker tells of a last line
without a newline.  `Diff.text` is the text of a diff and `IsDiffOnto` says when hunks are a diff
onto a file.
-/

namespace InlineReview

open Text

/-- Line `n` of some lines, counted from one. -/
def lineAt? (ls : List (List Char)) : (n : Nat) → Option (List Char)
  | 0 => none
  | i + 1 => ls[i]?

/-- A text without newlines. -/
abbrev LineText : Type := { s : List Char // '\n' ∉ s }

/-- A number in ASCII digits, no longer than a numeral may be. -/
structure AsciiNumber where
  digits : List Char
  ne_nil : digits ≠ []
  all_digits : ∀ c ∈ digits, isAsciiDigit c = true
  length_le : digits.length ≤ Numeral.digitLimit

/-- The value of a number. -/
def AsciiNumber.value (n : AsciiNumber) : Nat := Numeral.ofDigits (n.digits.map (·.toNat - 48))

/-- A range of lines as a header names it: a count that is left out is one. -/
structure LineRange where
  start : AsciiNumber
  count : Option AsciiNumber

namespace LineRange

/-- How many lines a range has. -/
def size (r : LineRange) : Nat := (r.count.map AsciiNumber.value).getD 1

/-- The numbers of the lines of a range. -/
def numbers (r : LineRange) : List Nat := List.range' r.start.value r.size

/-- A range behind its sign. -/
def written (sign : Char) (r : LineRange) : List Char :=
  sign :: r.start.digits ++
    match r.count with
    | none => []
    | some n => ',' :: n.digits

end LineRange

/-- A line in the body of a hunk. -/
inductive DiffLine where
  | context (text : LineText)
  | added (text : LineText)
  | removed (text : LineText)
  | unended

namespace DiffLine

/-- The mark of a last line that no newline ends. -/
def marker : List Char := '\x5c' :: " No newline at end of file".toList

/-- A line as it is written. -/
def written : DiffLine → List Char
  | .context text => ' ' :: text
  | .added text => '+' :: text
  | .removed text => '-' :: text
  | .unended => marker

/-- What a line shows of the new file. -/
def shown? : DiffLine → Option (List Char)
  | .context text => some text
  | .added text => some text
  | .removed _ => none
  | .unended => none

end DiffLine

/-- A hunk: the ranges that it covers, a heading, and its lines. -/
structure Hunk where
  old : LineRange
  new : LineRange
  heading : Option LineText
  body : List DiffLine

namespace Hunk

/-- What follows the ranges in the header of a hunk. -/
def headerEnd (h : Hunk) : List Char :=
  match h.heading with
  | none => []
  | some text => ' ' :: text

/-- The header of a hunk. -/
def header (h : Hunk) : List Char :=
  ['@', '@', ' '] ++ h.old.written '-' ++ ' ' :: h.new.written '+' ++ [' ', '@', '@'] ++ h.headerEnd

/-- The lines of a hunk as they are written. -/
def lines (h : Hunk) : List (List Char) := h.header :: h.body.map DiffLine.written

/-- What a hunk shows of the new file. -/
def shown (h : Hunk) : List (List Char) := h.body.filterMap DiffLine.shown?

end Hunk

namespace Diff

/-- The lines of a diff as they are written. -/
def lines (hunks : List Hunk) : List (List Char) := hunks.flatMap Hunk.lines

/-- The lines of the new file that a diff covers. -/
def covered (hunks : List Hunk) : List Nat := hunks.flatMap fun h => h.new.numbers

/-- The text of a diff, with or without a newline at its end. -/
def text (hunks : List Hunk) (isEnded : Bool) : String :=
  String.ofList (unlinesL (lines hunks) ++ if isEnded then ['\n'] else [])

end Diff

/-- Hunks are a diff onto a file if there is at least one, the lines that they cover ascend, and
each shows the lines of the file that it covers, in order. -/
structure IsDiffOnto (file : List (List Char)) (hunks : List Hunk) : Prop where
  ne_nil : hunks ≠ []
  ascending : (Diff.covered hunks).Pairwise (· < ·)
  shows : ∀ h ∈ hunks, h.shown.map some = h.new.numbers.map (lineAt? file)

end InlineReview
