import InlineReview.Text.Blank

/-!
# Lines

Every newline ends a line here.  `unifyNewlines` is how a text file is read: a carriage return,
with or without the newline after it, stands for a newline.
-/

namespace InlineReview.Text

/-- A carriage return, alone or before a newline, becomes a newline. -/
def unifyNewlines : List Char → List Char
  | [] => []
  | '\r' :: '\n' :: r => '\n' :: unifyNewlines r
  | c :: r => (if c = '\r' then '\n' else c) :: unifyNewlines r

/-- The pieces between newlines; a text that ends in a newline has an empty last piece. -/
def linesL (s : List Char) : List (List Char) := pieces '\n' s

/-- Joins lines with a newline between two neighbours. -/
def unlinesL (ls : List (List Char)) : List Char := joinWith '\n' ls

end InlineReview.Text
