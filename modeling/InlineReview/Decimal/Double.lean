import InlineReview.Text.Digit

/-!
# Binary floating point numbers

Numbers of 53 significant bits as exact values: a sign, a significand and a power of two, or an
infinity, or no number.  Rounding is to the nearest such value, of two equally near ones to the
one with the even significand, and all of it is arithmetic on natural numbers.
-/

namespace InlineReview

/-- A binary floating point number.  A finite one is `± significand · 2 ^ exponent` with the
significand below `2 ^ 53`, and the exponent is the least possible one unless the significand is
at least `2 ^ 52`. -/
inductive Double where
  | finite (negative : Bool) (significand : Nat) (exponent : Int)
  | infinite (negative : Bool)
  | nan
  deriving DecidableEq, Repr

namespace Double

/-- The number of bits of a significand. -/
def precision : Nat := 53

/-- The exponent of the least positive number. -/
def leastExponent : Int := -1074

/-- The exponent of the greatest finite number. -/
def greatestExponent : Int := 971

/-- Zero with a sign. -/
def zero (negative : Bool) : Double := .finite negative 0 leastExponent

/-- The fraction `num / (den · 2 ^ e)`. -/
def scaled (num den : Nat) (e : Int) : Nat × Nat :=
  if 0 ≤ e then (num, den * Nat.pow 2 e.toNat) else (num * Nat.pow 2 (-e).toNat, den)

/-- The exponent at which a positive fraction has a whole part of 53 bits, but no less than the
least exponent. -/
def exponentOf (num den : Nat) : Int :=
  let guess : Int := (num.log2 : Int) - (den.log2 : Int) - 52
  let (n, d) := scaled num den guess
  let e := if n / d < Nat.pow 2 52 then guess - 1 else guess
  if e < leastExponent then leastExponent else e

/-- The whole number nearest to `num / den`, of two equally near ones the even one. -/
def nearestEven (num den : Nat) : Nat :=
  let q := num / den
  let r := num % den
  if 2 * r < den then q
  else if den < 2 * r then q + 1
  else if q % 2 = 0 then q else q + 1

/-- The number nearest to `± num / den`. -/
def ofRatio (negative : Bool) (num den : Nat) : Double :=
  if num = 0 then zero negative
  else
    let e := exponentOf num den
    let (n, d) := scaled num den e
    let m := nearestEven n d
    let (m, e) := if m = Nat.pow 2 53 then (Nat.pow 2 52, e + 1) else (m, e)
    if greatestExponent < e then .infinite negative else .finite negative m e

/-- The number nearest to `± digits · 10 ^ exponent`.  Exponents that are far out of range are
settled by the count of digits. -/
def ofDecimal (negative : Bool) (digits : Nat) (exponent : Int) : Double :=
  if digits = 0 then zero negative
  else
    let size : Int := (Nat.toDigits 10 digits).length + exponent
    if 310 < size then .infinite negative
    else if size < -330 then zero negative
    else if 0 ≤ exponent then ofRatio negative (digits * Nat.pow 10 exponent.toNat) 1
    else ofRatio negative digits (Nat.pow 10 (-exponent).toNat)

/-- The exact value of a finite number. -/
def toRat? : Double → Option Rat
  | .finite negative m e =>
    let magnitude : Rat :=
      if 0 ≤ e then mkRat (m * Nat.pow 2 e.toNat : Nat) 1 else mkRat m (Nat.pow 2 (-e).toNat)
    some (if negative then -magnitude else magnitude)
  | _ => none

/-- The number nearest to a fraction. -/
def ofRat (x : Rat) : Double := ofRatio (x.num < 0) x.num.natAbs x.den

/-- Is this number greater than zero?  What is no number is not. -/
def isPositive : Double → Bool
  | .finite negative m _ => ! negative && m != 0
  | .infinite negative => ! negative
  | .nan => false

/-- Is this number equal to zero? -/
def isZero : Double → Bool
  | .finite _ m _ => m == 0
  | _ => false

/-- The value of a finite number that is whole. -/
def toInt? : Double → Option Int
  | .finite negative m e =>
    let magnitude? : Option Nat :=
      if 0 ≤ e then some (m * Nat.pow 2 e.toNat)
      else if m % Nat.pow 2 (-e).toNat = 0 then some (m / Nat.pow 2 (-e).toNat)
      else none
    magnitude?.map fun n => if negative then -(n : Int) else n
  | _ => none

end Double

end InlineReview
