import InlineReview.Json.Writer
import InlineReview.Proofs.Json.Spelling
import InlineReview.Proofs.Text.Ascii

/-!
# What the writer spells

The writer escapes no more than it must, or everything that is not ASCII.  In the first case it
spells the string itself; in the second, two halves of a pair that follow each other are spelled as
one character, so that it spells some string.

* `spellsText_plain` — a string that is written as it is.
* `exists_spellsText_ascii` — a string that is written in ASCII.
-/

namespace InlineReview.Json

open InlineReview.Text

/-! ## Hexadecimal digits -/

theorem hexValue?_hexDigit {n : Nat} (h : n < 16) : hexValue? (hexDigit n) = some n :=
  (show ∀ n < 16, hexValue? (hexDigit n) = some n by decide) n h

theorem isQuad_hexDigits {n : Nat} (h : n < 0x10000) : IsQuad (hexDigits 4 n) n where
  length_eq := by simp [hexDigits]
  value_eq := by
    have hlt (k : Nat) : k % 16 < 16 := Nat.mod_lt k (by decide)
    have hvalue : (n / 16 / 16 / 16 % 16) * 4096 + (n / 16 / 16 % 16) * 256 + (n / 16 % 16) * 16 +
        n % 16 = n := by omega
    simp [hexDigits, hexQuad?, hexValue?_hexDigit, hlt, hvalue]

/-! ## Strings as they are -/

theorem spellsText_plainChar {c : Char} {s t : List Char} (h : SpellsText s t) :
    SpellsText (c :: s) (plainChar c ++ t) := by
  unfold plainChar
  by_cases hself : (c = '\x22' || c = '\x5c') = true
  · rw [if_pos hself]
    have hc : c = '\x22' ∨ c = '\x5c' := by simpa using hself
    rcases hc with rfl | rfl
    · exact .letter rfl h
    · exact .letter rfl h
  rw [if_neg hself]
  obtain ⟨hquote, hslash⟩ : c ≠ '\x22' ∧ c ≠ '\x5c' := by simpa using hself
  split
  · rename_i hc
    rw [hc]
    exact .letter rfl h
  split
  · rename_i hc
    rw [hc]
    exact .letter rfl h
  split
  · rename_i hc
    rw [hc]
    exact .letter rfl h
  split
  · rename_i hc
    rw [hc]
    exact .letter rfl h
  split
  · rename_i hc
    rw [hc]
    exact .letter rfl h
  split
  · rename_i hcontrol
    have hhalf : isHalf c.toNat = false := by
      simp only [isHalf, Bool.and_eq_false_iff, decide_eq_false_iff_not]
      omega
    have hhigh : ¬ isHigh c.toNat = true := by
      simp only [isHigh, Bool.and_eq_true, decide_eq_true_eq]
      omega
    have hself : ofCodePoint c.toNat = c := by
      rw [ofCodePoint, hhalf, if_neg (by simp), Char.ofNat_toNat]
    have hunit := SpellsText.unit (isQuad_hexDigits (show c.toNat < 0x10000 by omega))
      (fun hboth => absurd hboth hhigh) h
    rw [hself] at hunit
    exact hunit
  · rename_i hcontrol
    exact .plain ⟨hquote, hslash, hcontrol⟩ h

/-- A string that is written as it is, is spelled. -/
theorem spellsText_plain (s : List Char) : SpellsText s (s.flatMap plainChar) := by
  induction s with
  | nil => exact .nil
  | cons c s ih => exact spellsText_plainChar ih

/-! ## Strings in ASCII -/

/-- The escape of a code unit spells it, or, as a first half before a second one, their
character. -/
theorem SpellsText.exists_unit {s t : List Char} {n : Nat} (h : SpellsText s t)
    (hn : n < 0x10000) : ∃ s', SpellsText s' (unitEscape n ++ t) := by
  by_cases hjoined : isHigh n = true ∧ LowFollows t
  · obtain ⟨hhigh, second, m, r, rfl, hsecond, hlow⟩ := hjoined
    obtain ⟨quad, m', r', heq, hquad, hrest⟩ := h.quad_of_escape
    obtain ⟨rfl, rfl⟩ := List.append_inj heq (hsecond.length_eq.trans hquad.length_eq.symm)
    have hm : m' = m := Option.some_inj.1 (hquad.value_eq.symm.trans hsecond.value_eq)
    obtain ⟨s', hs'⟩ := hrest (by rw [hm, hlow])
    exact ⟨_, .pair (isQuad_hexDigits hn) hsecond hhigh hlow hs'⟩
  · exact ⟨_, .unit (isQuad_hexDigits hn) (fun hhigh hfollows => hjoined ⟨hhigh, hfollows⟩) h⟩

theorem codePoint_lt (c : Char) : codePoint c < 0x110000 := by
  have hlt : c.toNat < 0x110000 := by
    have hvalid : c.toNat.isValidChar := c.valid
    unfold Nat.isValidChar at hvalid
    omega
  unfold codePoint
  split
  · exact Nat.lt_of_le_of_lt (Nat.sub_le _ _) hlt
  · exact hlt

/-- A string that is written in ASCII is a spelling of some string. -/
theorem exists_spellsText_ascii (s : List Char) : ∃ s', SpellsText s' (s.flatMap asciiChar) := by
  induction s with
  | nil => exact ⟨[], .nil⟩
  | cons c s ih =>
    obtain ⟨s', hs'⟩ := ih
    have hbound := codePoint_lt c
    rw [List.flatMap_cons, asciiChar]
    split
    · exact ⟨c :: s', spellsText_plainChar hs'⟩
    split
    · rename_i hunit
      exact hs'.exists_unit hunit
    · obtain ⟨s'', hs''⟩ := hs'.exists_unit
        (show 0xDC00 + (codePoint c - 0x10000) % 0x400 < 0x10000 by omega)
      rw [List.append_assoc]
      exact hs''.exists_unit (by omega)

end InlineReview.Json
