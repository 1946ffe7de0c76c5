import InlineReview.Decimal.Double

/-!
# Shortest decimal text

The decimal with the fewest digits that is read back as the same number, of those the one nearest
to it.  The digits are found on the decimal grids of 1, 2, … 17 digits: a number's neighbours on
a grid are tested for lying in the interval that rounds to it.

The digits are written in positional notation while the exponent lies between -4 and 15, with a
fraction of at least one digit, and with an exponent of at least two digits otherwise.
-/

namespace InlineReview.Double

/-- Decimal digits with the exponent of the first one: `d.ddd · 10 ^ exponent`. -/
structure Scientific where
  digits : List Char
  exponent : Int
  deriving DecidableEq, Repr

/-- The fraction `n · b ^ x`. -/
def powered (n b : Nat) (x : Int) : Nat × Nat :=
  if 0 ≤ x then (n * Nat.pow b x.toNat, 1) else (n, Nat.pow b (-x).toNat)

/-- Is the first fraction at most the second? -/
def ratioLe (x y : Nat × Nat) : Bool := x.1 * y.2 ≤ y.1 * x.2

/-- Is the first fraction less than the second? -/
def ratioLt (x y : Nat × Nat) : Bool := x.1 * y.2 < y.1 * x.2

/-- How far two fractions are apart. -/
def ratioGap (x y : Nat × Nat) : Nat × Nat :=
  let a := x.1 * y.2
  let b := y.1 * x.2
  (if a ≤ b then b - a else a - b, x.2 * y.2)

/-- The exponent of the first decimal digit of a fraction below one, counted down from `-j`. -/
def smallExponent (num den : Nat) : (fuel : Nat) → (j : Nat) → Int
  | 0, j => -(j : Int)
  | fuel + 1, j =>
    if den ≤ num * Nat.pow 10 j then -(j : Int) else smallExponent num den fuel (j + 1)

/-- The exponent of the first decimal digit of a positive fraction. -/
def firstExponent (num den : Nat) : Int :=
  if den ≤ num then ((Nat.toDigits 10 (num / den)).length : Int) - 1
  else smallExponent num den 400 1

/-- The interval of a number `significand · 2 ^ exponent`: its ends, and whether they belong to
it.  Below a power of two the numbers lie closer. -/
structure Interval where
  low : Nat × Nat
  high : Nat × Nat
  closed : Bool

/-- The fractions that round to `m · 2 ^ e`. -/
def intervalOf (m : Nat) (e : Int) : Interval where
  low := powered (4 * m - if m = Nat.pow 2 52 && leastExponent < e then 1 else 2) 2 (e - 2)
  high := powered (4 * m + 2) 2 (e - 2)
  closed := m % 2 = 0

/-- Does a fraction lie in an interval? -/
def Interval.contains (i : Interval) (x : Nat × Nat) : Bool :=
  if i.closed then ratioLe i.low x && ratioLe x i.high else ratioLt i.low x && ratioLt x i.high

/-- The point of the grid of spacing `10 ^ spacing` that lies in the interval and is nearest to
the value, an even one if two are equally near. -/
def gridPoint? (value : Nat × Nat) (i : Interval) (spacing : Int) : Option Nat :=
  let (n, d) := powered value.1 10 (-spacing)
  let below := n / (d * value.2)
  let inside (g : Nat) := i.contains (powered g 10 spacing)
  let gap (g : Nat) := ratioGap value (powered g 10 spacing)
  match inside below, inside (below + 1) with
  | true, true =>
    if ratioLt (gap below) (gap (below + 1)) then some below
    else if ratioLt (gap (below + 1)) (gap below) then some (below + 1)
    else some (if below % 2 = 0 then below else below + 1)
  | true, false => some below
  | false, true => some (below + 1)
  | false, false => none

/-- The first grid with a point in the interval, from `count` digits on. -/
def firstGrid (value : Nat × Nat) (i : Interval) (first : Int) : (fuel count : Nat) → Nat × Int
  | 0, count => (0, first - count + 1)
  | fuel + 1, count =>
    let spacing := first - count + 1
    match gridPoint? value i spacing with
    | some g => (g, spacing)
    | none => firstGrid value i first fuel (count + 1)

/-- The digits of a number without the zeros at its end. -/
def significantDigits (n : Nat) : List Char :=
  let ds := ((Nat.toDigits 10 n).reverse.dropWhile (· == '0')).reverse
  if ds.isEmpty then ['0'] else ds

/-- The shortest decimal of `m · 2 ^ e`, for a positive `m`. -/
def shortest (m : Nat) (e : Int) : Scientific :=
  let value := powered m 2 e
  let (g, spacing) := firstGrid value (intervalOf m e) (firstExponent value.1 value.2) 17 1
  { digits := significantDigits g
    exponent := ((Nat.toDigits 10 g).length : Int) - 1 + spacing }

/-- Positional notation is used from this exponent on. -/
def leastPositional : Int := -4

/-- Positional notation is used below this exponent. -/
def positionalEnd : Int := 16

/-- The digits of an exponent, two at least. -/
def exponentDigits (n : Nat) : List Char :=
  let ds := Nat.toDigits 10 n
  if ds.length < 2 then '0' :: ds else ds

/-- A decimal in positional or in exponent notation. -/
def Scientific.text (s : Scientific) : List Char :=
  if leastPositional ≤ s.exponent && s.exponent < positionalEnd then
    if s.exponent < 0 then
      '0' :: '.' :: List.replicate (-s.exponent - 1).toNat '0' ++ s.digits
    else
      let whole := s.exponent.toNat + 1
      let front := s.digits.take whole
      let rest := s.digits.drop whole
      front ++ List.replicate (whole - front.length) '0' ++
        '.' :: (if rest.isEmpty then ['0'] else rest)
  else
    let rest := s.digits.drop 1
    s.digits.take 1 ++ (if rest.isEmpty then [] else '.' :: rest) ++
      'e' :: (if s.exponent < 0 then '-' else '+') :: exponentDigits s.exponent.natAbs

/-- The shortest text of a number. -/
def textL : Double → List Char
  | .finite negative m e =>
    let magnitude := if m = 0 then ['0', '.', '0'] else (shortest m e).text
    if negative then '-' :: magnitude else magnitude
  | .infinite negative => if negative then "-inf".toList else "inf".toList
  | .nan => "nan".toList

/-- The shortest text of a number. -/
def text (d : Double) : String := String.ofList d.textL

end InlineReview.Double
