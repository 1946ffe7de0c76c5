import InlineReview.Unicode.Combining
import InlineReview.Unicode.Decomposition

/-!
# Composed text

Texts that are equivalent have the same composed form: every character is taken apart, marks are
put into the order of their classes, and what can be composed is composed.  The syllables of
Korean are composed by arithmetic from two or three letters.
-/

namespace InlineReview.Unicode

/-! ## Korean syllables -/

/-- The first syllable. -/
def firstSyllable : Nat := 0xAC00

/-- The first letter that starts a syllable; there are nineteen. -/
def firstLead : Nat := 0x1100

/-- The first vowel; there are 21. -/
def firstVowel : Nat := 0x1161

/-- What is before the first letter that ends a syllable; there are 27. -/
def beforeTail : Nat := 0x11A7

/-- The letters of a syllable, none if the code point is no syllable. -/
def syllableLetters? (n : Nat) : Option (List Nat) :=
  if firstSyllable ≤ n && n < firstSyllable + 11172 then
    let i := n - firstSyllable
    let tail := i % 28
    some ([firstLead + i / 588, firstVowel + i % 588 / 28] ++
      if tail = 0 then [] else [beforeTail + tail])
  else none

/-- The syllable of two letters, or of a syllable without an end and a letter that ends it. -/
def syllable? (a b : Nat) : Option Nat :=
  if firstLead ≤ a && a < firstLead + 19 && firstVowel ≤ b && b < firstVowel + 21 then
    some (firstSyllable + ((a - firstLead) * 21 + (b - firstVowel)) * 28)
  else if firstSyllable ≤ a && a < firstSyllable + 11172 && (a - firstSyllable) % 28 = 0 &&
      beforeTail < b && b < beforeTail + 28 then
    some (a + (b - beforeTail))
  else none

/-! ## Taking apart -/

/-- What a character stands for, taken apart as often as the fuel allows. -/
def expanded : (fuel : Nat) → Char → List Char
  | 0, c => [c]
  | fuel + 1, c =>
    match syllableLetters? c.toNat with
    | some letters => letters.map Char.ofNat
    | none =>
      match imageOf? decompositions c with
      | some parts => parts.flatMap (expanded fuel)
      | none => [c]

/-- How often a character can be taken apart. -/
def greatestDepth : Nat := 4

/-- Puts a character in front of marks that are in order: it moves behind marks of lower classes,
unless it is of class zero. -/
def putInOrder (c : Char) : List Char → List Char
  | [] => [c]
  | d :: r =>
    if combiningClass d != 0 && combiningClass d < combiningClass c then d :: putInOrder c r
    else c :: d :: r

/-- A text taken apart, with its marks in order. -/
def decomposed (s : List Char) : List Char :=
  (s.flatMap (expanded greatestDepth)).foldr putInOrder []

/-! ## Composing -/

/-- The precomposed characters of pairs. -/
def compositions : List ((Nat × Nat) × Nat) :=
  decompositions.filterMap fun m =>
    match m.image with
    | [a, b] =>
      if notComposed.any (·.holds m.span.first) then none else some ((a, b), m.span.first)
    | _ => none

/-- The character composed of two. -/
def composedPair? (a b : Char) : Option Char :=
  match syllable? a.toNat b.toNat with
  | some n => some (Char.ofNat n)
  | none => (compositions.lookup (a.toNat, b.toNat)).map Char.ofNat

/-- Is a character cut off from the one that a combination starts with by the last mark held
between them? -/
def isCutOff (held : List Char) (c : Char) : Bool :=
  held.getLast?.any fun d => combiningClass c ≤ combiningClass d

/-- Composes what follows a character that starts a combination; `held` are the marks since then
that were not composed with it. -/
def composeFrom (start : Char) (held : List Char) : List Char → List Char
  | [] => start :: held
  | c :: r =>
    match if isCutOff held c then none else composedPair? start c with
    | some whole => composeFrom whole held r
    | none =>
      if combiningClass c = 0 then start :: held ++ composeFrom c [] r
      else composeFrom start (held ++ [c]) r

/-- Composes a text whose marks are in order. -/
def compose : List Char → List Char
  | [] => []
  | c :: r => if combiningClass c = 0 then composeFrom c [] r else c :: compose r

/-- The composed form of a text. -/
def composed (s : List Char) : List Char := compose (decomposed s)

end InlineReview.Unicode
