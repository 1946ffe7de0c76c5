import InlineReview.Text.Search

/-!
# Fenced blocks

A model may put its answer into a fenced block.  A block opens with three backticks, perhaps the
word `json` and perhaps blanks up to the end of the line, and ends before the next three
backticks.  `Fence.fragment` is the body of the first block, or the whole text without one.
-/

namespace InlineReview.Fence

open Text

/-- Three backticks. -/
def ticks : List Char := ['\x60', '\x60', '\x60']

/-- The word that may follow the opening backticks. -/
def language : List Char := "json".toList

/-- What follows the end of a line: a newline, perhaps after a carriage return. -/
def afterLineEnd? : List Char → Option (List Char)
  | '\n' :: r => some r
  | '\r' :: '\n' :: r => some r
  | _ => none

/-- What follows an opening at the front of a text. -/
def afterOpening? (s : List Char) : Option (List Char) := do
  let r ← dropLead? ticks s
  let r := (dropLead? language r).getD r
  afterLineEnd? (r.dropWhile fun c => c = ' ' || c = '\t')

/-- The body of a block at the front of a text. -/
def bodyHere? (s : List Char) : Option (List Char) := do
  let r ← afterOpening? s
  let (body, _) ← breakOn? ticks r
  pure body

/-- The body of the first block of a text. -/
def body? : List Char → Option (List Char)
  | [] => none
  | c :: r =>
    match bodyHere? (c :: r) with
    | some body => some body
    | none => body? r

/-- The body of the first block, or the text itself if it has none. -/
def fragmentL (s : List Char) : List Char := (body? s).getD s

/-- The body of the first block, or the text itself if it has none. -/
def fragment (s : String) : String := String.ofList (fragmentL s.toList)

end InlineReview.Fence
