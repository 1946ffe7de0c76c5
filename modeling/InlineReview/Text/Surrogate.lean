/-!
# Halves of pairs

The code points that stand for no character are the halves of pairs in which UTF-16 writes the
characters beyond the basic plane.  A text that was read from escapes may hold a half on its own.
It is held as a stand-in, a private character that is as far above it as the last plane is above
the first: `ofCodePoint` gives the character held for a code point and `codePoint` the code point
for which a character is held.
-/

namespace InlineReview.Text

/-- Is this code point the first half of a pair? -/
def isHigh (n : Nat) : Bool := 0xD800 ≤ n && n < 0xDC00

/-- Is this code point the second half of a pair? -/
def isLow (n : Nat) : Bool := 0xDC00 ≤ n && n < 0xE000

/-- Is this code point half of a pair? -/
def isHalf (n : Nat) : Bool := 0xD800 ≤ n && n < 0xE000

/-- The code point of a pair. -/
def joinPair (high low : Nat) : Nat := 0x10000 + (high - 0xD800) * 0x400 + (low - 0xDC00)

/-- How far the stand-in of a half is above it. -/
def standInDistance : Nat := 0x100000

/-- The character held for a code point. -/
def ofCodePoint (n : Nat) : Char :=
  if isHalf n then Char.ofNat (n + standInDistance) else Char.ofNat n

/-- Is this character the stand-in of a half? -/
def isStandIn (c : Char) : Bool :=
  standInDistance ≤ c.toNat && isHalf (c.toNat - standInDistance)

/-- The code point for which a character is held. -/
def codePoint (c : Char) : Nat := if isStandIn c then c.toNat - standInDistance else c.toNat

end InlineReview.Text
