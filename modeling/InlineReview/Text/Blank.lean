/-!
# Blank characters

The characters that count as blank when a text is trimmed or cut into words: the Unicode white
space characters together with the four information separators.  `trim` removes them at both
ends of a text and `words` lists the runs between them.
-/

namespace InlineReview.Text

/-- Is this character blank? -/
def isBlank (c : Char) : Bool :=
  let n := c.toNat
  (9 ≤ n && n ≤ 13) || (28 ≤ n && n ≤ 32) || n == 0x85 || n == 0xA0 || n == 0x1680 ||
    (0x2000 ≤ n && n ≤ 0x200A) || n == 0x2028 || n == 0x2029 || n == 0x202F || n == 0x205F ||
    n == 0x3000

/-- Drops the characters of a class at both ends. -/
def trimWhere (p : Char → Bool) (s : List Char) : List Char :=
  (((s.dropWhile p).reverse).dropWhile p).reverse

/-- Drops the blanks at both ends. -/
def trimL (s : List Char) : List Char := trimWhere isBlank s

/-- Drops the blanks at both ends of a text. -/
def trim (s : String) : String := String.ofList (trimL s.toList)

/-- Is there nothing but blanks in this text? -/
def allBlank (s : String) : Bool := s.toList.all isBlank

/-- Cuts a text at every character of a class: `n` such characters leave `n + 1` pieces. -/
def piecesWhere (p : Char → Bool) : List Char → List (List Char)
  | [] => [[]]
  | c :: r =>
    if p c then [] :: piecesWhere p r
    else match piecesWhere p r with
      | [] => [[c]]
      | w :: ws => (c :: w) :: ws

/-- Cuts a text at every occurrence of one character. -/
def pieces (sep : Char) (s : List Char) : List (List Char) := piecesWhere (· == sep) s

/-- The longest runs of characters that are not blank, in order. -/
def words (s : List Char) : List (List Char) :=
  (piecesWhere isBlank s).filter (! ·.isEmpty)

/-- Joins pieces with one character between two neighbours. -/
def joinWith (sep : Char) : List (List Char) → List Char
  | [] => []
  | [w] => w
  | w :: ws => w ++ sep :: joinWith sep ws

theorem piecesWhere_ne_nil (p : Char → Bool) (s : List Char) : piecesWhere p s ≠ [] := by
  cases s with
  | nil => simp [piecesWhere]
  | cons c r =>
    unfold piecesWhere
    split
    · simp
    · split <;> simp

end InlineReview.Text
