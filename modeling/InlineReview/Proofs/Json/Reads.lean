import InlineReview.Json.Reader
import InlineReview.Proofs.Text.Ascii
import Mathlib.Data.List.TakeWhile

/-!
# Reading values

Texts that are put together from others in quotes, in brackets and in braces, and where reading a
number stops.

* `Json.IsPlainText` — a text that stands for itself in a string.
* `Json.readL_digits` — reading a number of too many digits stops at the limit.
-/

namespace InlineReview.Json

open InlineReview.Text

theorem skipSpace_cons {c : Char} {r : List Char} (h : isSpace c = false) :
    skipSpace (c :: r) = c :: r := by
  simp [skipSpace, h]

/-! ## Texts of one value -/

/-- Does a character of a string stand for itself? -/
def IsPlain (c : Char) : Prop := c ≠ '\x22' ∧ c ≠ '\x5c' ∧ ¬ c.toNat < 0x20

instance : DecidablePred IsPlain := fun c =>
  inferInstanceAs (Decidable (c ≠ '\x22' ∧ c ≠ '\x5c' ∧ ¬ c.toNat < 0x20))

/-- Does a text stand for itself in a string? -/
def IsPlainText (s : List Char) : Prop := ∀ c ∈ s, IsPlain c

instance (s : List Char) : Decidable (IsPlainText s) := List.decidableBAll IsPlain s

/-- A text in quotes. -/
def quoted (s : List Char) : List Char := '\x22' :: (s ++ ['\x22'])

/-- A text in brackets. -/
def bracketed (s : List Char) : List Char := '[' :: (s ++ [']'])

/-- A text in braces, after its name. -/
def braced (name : String) (s : List Char) : List Char :=
  '\x7b' :: (quoted name.toList ++ ':' :: ' ' :: (s ++ ['\x7d']))

theorem isAscii_quoted {s : List Char} : IsAscii (quoted s) ↔ IsAscii s := by
  simp [quoted]

theorem isAscii_bracketed {s : List Char} : IsAscii (bracketed s) ↔ IsAscii s := by
  simp [bracketed]

theorem isAscii_braced {name : String} {s : List Char} :
    IsAscii (braced name s) ↔ IsAscii name.toList ∧ IsAscii s := by
  simp [braced, isAscii_quoted]

/-! ## Numbers -/

theorem splitNumber?_digits {c : Char} {r : List Char} (hc : c ≠ '0')
    (h : ∀ d ∈ c :: r, isAsciiDigit d = true) :
    splitNumber? (c :: r) =
      some ({ negative := false, whole := c :: r, fraction := none, exponent := none }, []) := by
  have hminus : c ≠ '-' := ne_of_isAsciiDigit (h c (by simp)) (by decide)
  have htaken : (c :: r).takeWhile isAsciiDigit = c :: r := List.takeWhile_eq_self_iff.2 h
  simp [splitNumber?, hminus, hc, htaken, splitFraction, splitExponent]

theorem splitWord?_digits {c : Char} {r : List Char} (h : isAsciiDigit c = true) :
    splitWord? (c :: r) = none := by
  have hne : ∀ d, isAsciiDigit d = false → d ≠ c := fun d hd => (ne_of_isAsciiDigit h hd).symm
  simp [splitWord?, wordValues, dropLead?, hne 'n' (by decide), hne 't' (by decide),
    hne 'f' (by decide), hne 'N' (by decide), hne 'I' (by decide), hne '-' (by decide)]

/-- Reading a number of too many digits stops at the limit. -/
theorem readL_digits {c : Char} {r : List Char} (hc : c ≠ '0')
    (h : ∀ d ∈ c :: r, isAsciiDigit d = true) (hlong : Numeral.digitLimit < (c :: r).length) :
    readL (c :: r) = .error (.limit (.tooLong (c :: r).length)) := by
  have hne : ∀ d, isAsciiDigit d = false → c ≠ d := fun d => ne_of_isAsciiDigit (h c (by simp))
  have hspace : skipSpace (c :: r) = c :: r := by
    refine skipSpace_cons ?_
    simp [isSpace, hne ' ' (by decide), hne '\t' (by decide), hne '\n' (by decide),
      hne '\r' (by decide)]
  have hvalue : readValue (2 * (c :: r).length + 2) nestingLimit (c :: r) =
      .error (.limit (.tooLong (c :: r).length)) := by
    simp only [readValue, if_neg (hne '\x22' (by decide)), if_neg (hne '\x7b' (by decide)),
      if_neg (hne '[' (by decide)), splitWord?_digits (h c (by simp)), splitNumber?_digits hc h,
      NumberToken.value, if_pos hlong]
    rfl
  have hunmarked : readUnmarked (c :: r) = .error (.limit (.tooLong (c :: r).length)) := by
    rw [readUnmarked, readWhole, hspace, hvalue]
    rfl
  unfold readL
  split
  · rename_i heq
    exact absurd (List.cons.inj heq).1 (hne '\uFEFF' (by decide))
  · exact hunmarked

end InlineReview.Json
