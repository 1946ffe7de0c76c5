/-!
# ASCII letters

Names in addresses and in settings are compared in small letters.
-/

namespace InlineReview.Text

/-- A small letter for an ASCII capital. -/
def lowerAscii (c : Char) : Char :=
  if 'A' ≤ c && c ≤ 'Z' then Char.ofNat (c.toNat + 32) else c

end InlineReview.Text
