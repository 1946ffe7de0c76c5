import InlineReview.Decimal.Double
import Mathlib.Algebra.Order.Ring.Rat

/-!
# The order of numbers

Finite numbers are compared by their values and lie between the two infinities; what is no number is
neither less nor greater than anything.

* `Double.isPositive_iff` — which numbers are greater than zero.
-/

namespace InlineReview.Double

/-! ## Values -/

/-- The value of a finite number without its sign. -/
def magnitude (m : Nat) (e : Int) : Rat :=
  if 0 ≤ e then mkRat (m * Nat.pow 2 e.toNat : Nat) 1 else mkRat m (Nat.pow 2 (-e).toNat)

theorem toRat?_finite (negative : Bool) (m : Nat) (e : Int) :
    (finite negative m e).toRat? =
      some (if negative then -magnitude m e else magnitude m e) := rfl

theorem magnitude_nonneg (m : Nat) (e : Int) : 0 ≤ magnitude m e := by
  unfold magnitude
  split
  · exact Rat.mkRat_nonneg (Int.natCast_nonneg _) _
  · exact Rat.mkRat_nonneg (Int.natCast_nonneg _) _

theorem magnitude_pos {m : Nat} (hm : m ≠ 0) (e : Int) : 0 < magnitude m e := by
  have hpow : ∀ k, 0 < Nat.pow 2 k := fun k => Nat.pow_pos (by decide)
  have hm' : 0 < m := Nat.pos_of_ne_zero hm
  unfold magnitude
  split
  · exact Rat.mkRat_pos (Int.natCast_pos.2 (Nat.mul_pos hm' (hpow _))) (by decide)
  · exact Rat.mkRat_pos (Int.natCast_pos.2 hm') (hpow _).ne'

theorem magnitude_zero (e : Int) : magnitude 0 e = 0 := by simp [magnitude]

theorem toRat?_pos {d : Double} (h : d.isPositive = true) {s : Rat} (hs : d.toRat? = some s) :
    0 < s := by
  cases d with
  | nan => cases hs
  | infinite negative => cases hs
  | finite negative m e =>
    obtain ⟨rfl, hm⟩ : negative = false ∧ m ≠ 0 := by simpa [isPositive] using h
    rw [toRat?_finite] at hs
    obtain rfl := Option.some.inj hs
    exact magnitude_pos hm e

/-! ## Comparing -/

/-- Is a number less than another one? -/
inductive Less : Double → Double → Prop
  /-- Finite numbers are compared by their values. -/
  | finite {x y : Double} {p q : Rat} (hx : x.toRat? = some p) (hy : y.toRat? = some q)
      (h : p < q) : Less x y
  /-- Every other number is above the negative infinity. -/
  | above {y : Double} (hy : y ≠ .infinite true) (hnumber : y ≠ .nan) : Less (.infinite true) y
  /-- Every other number is below the positive infinity. -/
  | below {x : Double} (hx : x ≠ .infinite false) (hnumber : x ≠ .nan) : Less x (.infinite false)

theorem toRat?_zero : (zero false).toRat? = some 0 := by
  rw [zero, toRat?_finite, magnitude_zero]
  rfl

/-- A finite number is positive exactly if its value is. -/
theorem isPositive_finite_iff {negative : Bool} {m : Nat} {e : Int} {q : Rat}
    (hq : (finite negative m e).toRat? = some q) :
    (finite negative m e).isPositive = true ↔ 0 < q := by
  constructor
  · exact fun h => toRat?_pos h hq
  · intro hpos
    rw [toRat?_finite] at hq
    obtain rfl := Option.some.inj hq
    have hsign : negative = false := by
      cases negative with
      | false => rfl
      | true => exact absurd hpos (not_lt.2 (neg_nonpos.2 (magnitude_nonneg m e)))
    have hm : m ≠ 0 := by
      rintro rfl
      rw [magnitude_zero, neg_zero, ite_self] at hpos
      exact lt_irrefl 0 hpos
    simp [isPositive, hsign, hm]

/-- The positive numbers are those that zero is less than. -/
theorem isPositive_iff {d : Double} : d.isPositive = true ↔ Less (zero false) d := by
  constructor
  · intro h
    cases d with
    | nan => cases h
    | infinite negative =>
      cases negative with
      | true => cases h
      | false => exact .below (by simp [zero]) (by simp [zero])
    | finite negative m e =>
      have hvalue := toRat?_finite negative m e
      exact .finite toRat?_zero hvalue ((isPositive_finite_iff hvalue).1 h)
  · intro h
    cases h with
    | below => rfl
    | @finite _ _ p q hx hy hlt =>
      rw [toRat?_zero] at hx
      obtain rfl := Option.some.inj hx
      cases d with
      | nan => cases hy
      | infinite negative => cases hy
      | finite negative m e => exact (isPositive_finite_iff hy).2 hlt

end InlineReview.Double
