import InlineReview.Text.Blank
import InlineReview.Text.Digit
import InlineReview.Text.Search

/-!
# Sets and maps of characters

Properties of characters hold for spans of code points.  A set is written as spans in hexadecimal
numbers: `61-7A` for all from the first to the last, `100-12E/2` for every other one.  A map is
written as spans with images: in `41-5A>61` each image is as far from the first image as the
character from the first one, and an image may be several characters, `DF>73.73`, or none, `AD>`.
-/

namespace InlineReview.Unicode

open Text

/-- Code points from a first to a last one, each so many after the one before. -/
structure Span where
  first : Nat
  last : Nat
  step : Nat := 1
  deriving DecidableEq, Repr

/-- A span with its image: one code point, which is that of the first character, or else the image
of every character. -/
structure MapSpan where
  span : Span
  image : List Nat
  deriving DecidableEq, Repr

/-- Does a code point lie in a span? -/
def Span.holds (s : Span) (n : Nat) : Bool :=
  s.first ≤ n && n ≤ s.last && (n - s.first) % s.step == 0

/-- The image of a code point in a span. -/
def MapSpan.imageOf (m : MapSpan) (n : Nat) : List Char :=
  match m.image with
  | [first] => [Char.ofNat (first + (n - m.span.first))]
  | image => image.map Char.ofNat

/-- The value of hexadecimal digits. -/
def hexNumber (s : List Char) : Nat := s.foldl (fun n c => n * 16 + (hexValue? c).getD 0) 0

/-- Reads a span. -/
def Span.ofText (s : List Char) : Span :=
  let (first, rest) := breakAt '-' s
  let (last, step) := breakAt '/' (rest.getD first)
  { first := hexNumber first, last := hexNumber last, step := (step.map hexNumber).getD 1 }

/-- Reads a span with its image. -/
def MapSpan.ofText (s : List Char) : MapSpan :=
  let (span, image) := breakAt '>' s
  { span := Span.ofText span
    image := ((pieces '.' (image.getD [])).filter (! ·.isEmpty)).map hexNumber }

/-- Reads the spans in rows of text. -/
def spansOf (rows : List String) : List Span :=
  rows.flatMap fun row => (words row.toList).map Span.ofText

/-- Reads the spans with images in rows of text. -/
def mapSpansOf (rows : List String) : List MapSpan :=
  rows.flatMap fun row => (words row.toList).map MapSpan.ofText

/-- Does a character lie in one of the spans? -/
def inSpans (spans : List Span) (c : Char) : Bool := spans.any (·.holds c.toNat)

/-- The image of a character under a map, none if the map says nothing about it. -/
def imageOf? (spans : List MapSpan) (c : Char) : Option (List Char) :=
  (spans.find? (·.span.holds c.toNat)).map (·.imageOf c.toNat)

end InlineReview.Unicode
