/-!
# Base64

Three octets are written as four characters of an alphabet of 64.  One or two octets at the end
are written as two or three characters and signs of equality up to four.
-/

namespace InlineReview.Web.Base64

/-- The character of a value below 64. -/
def char (n : Nat) : Char :=
  Char.ofNat
    (if n < 26 then 65 + n else if n < 52 then 71 + n else if n < 62 then n - 4
      else if n = 62 then 43 else 47)

/-- The first `count` characters of a value of 24 bits, with signs of equality up to four. -/
def group (count n : Nat) : List Char :=
  ([n / 262144, n / 4096 % 64, n / 64 % 64, n % 64].take count).map char ++
    List.replicate (4 - count) '='

/-- The characters for octets. -/
def encode : List UInt8 → List Char
  | [] => []
  | [a] => group 2 (a.toNat * 65536)
  | [a, b] => group 3 (a.toNat * 65536 + b.toNat * 256)
  | a :: b :: c :: rest => group 4 (a.toNat * 65536 + b.toNat * 256 + c.toNat) ++ encode rest

end InlineReview.Web.Base64
