import InlineReview.Text.Blank
import InlineReview.Text.Utf8

/-!
# ASCII

What holds of ASCII digits, and of texts whose characters UTF-8 writes as one octet each.

* `Text.digitValue?_of_isAsciiDigit` — the value of a digit.
* `Text.Utf8.decodeTolerant_encode` — such a text is read back from its octets.
-/

namespace InlineReview.Text

/-! ## Digits -/

theorem isAsciiDigit_iff {c : Char} : isAsciiDigit c = true ↔ 48 ≤ c.toNat ∧ c.toNat ≤ 57 := by
  simp only [isAsciiDigit, Bool.and_eq_true, decide_eq_true_eq, Char.le_def,
    UInt32.le_iff_toNat_le]
  exact Iff.rfl

theorem digitValue?_of_isAsciiDigit {c : Char} (h : isAsciiDigit c = true) :
    digitValue? c = some (c.toNat - 48) := by
  obtain ⟨hlo, hhi⟩ := isAsciiDigit_iff.1 h
  have hzeros : decimalZeros = 48 :: decimalZeros.tail := rfl
  have hfind : (decimalZeros.find? fun z => z ≤ c.toNat && c.toNat < z + 10) = some 48 := by
    rw [hzeros]
    refine List.find?_cons_of_pos ?_
    simp only [Bool.and_eq_true, decide_eq_true_eq]
    omega
  simp [digitValue?, hfind]

theorem isDigit_of_isAsciiDigit {c : Char} (h : isAsciiDigit c = true) : isDigit c = true := by
  simp [isDigit, digitValue?_of_isAsciiDigit h]

theorem not_isBlank_of_isAsciiDigit {c : Char} (h : isAsciiDigit c = true) :
    isBlank c = false := by
  obtain ⟨hlo, hhi⟩ := isAsciiDigit_iff.1 h
  simp only [isBlank, Bool.or_eq_false_iff, Bool.and_eq_false_iff, decide_eq_false_iff_not,
    beq_eq_false_iff_ne]
  omega

theorem ne_of_isAsciiDigit {c d : Char} (h : isAsciiDigit c = true)
    (hd : isAsciiDigit d = false) : c ≠ d := by
  rintro rfl
  rw [h] at hd
  exact absurd hd (by decide)

/-! ## Characters of one octet -/

theorem isStandIn_of_lt {c : Char} (h : c.toNat < 0x10000) : isStandIn c = false := by
  have hlt : ¬ standInDistance ≤ c.toNat := by
    simp only [standInDistance]
    omega
  simp [isStandIn, hlt]

/-- Is each character of a text written as one octet? -/
def IsAscii (s : List Char) : Prop := ∀ c ∈ s, c.toNat < 0x80

instance (s : List Char) : Decidable (IsAscii s) :=
  List.decidableBAll (fun c : Char => c.toNat < 0x80) s

@[simp] theorem isAscii_nil : IsAscii [] := by simp [IsAscii]

@[simp] theorem isAscii_cons {c : Char} {s : List Char} :
    IsAscii (c :: s) ↔ c.toNat < 0x80 ∧ IsAscii s := by
  simp [IsAscii]

@[simp] theorem isAscii_append {s r : List Char} : IsAscii (s ++ r) ↔ IsAscii s ∧ IsAscii r := by
  simp [IsAscii, or_imp, forall_and]

theorem Utf8.encodeChar_of_lt {c : Char} (h : c.toNat < 0x80) :
    Utf8.encodeChar c = [UInt8.ofNat c.toNat] := by
  have hcode : codePoint c = c.toNat := by
    rw [codePoint, isStandIn_of_lt (by omega)]
    rfl
  simp [Utf8.encodeChar, hcode, h]

theorem Utf8.decodeTolerant_encode {s : List Char} (h : IsAscii s) :
    Utf8.decodeTolerant (Utf8.encode s) = .ok s := by
  have hfrom : ∀ start, strictly "utf-8" start (Utf8.encode s)
      (Utf8.piecesFrom true 0 (Utf8.encode s)) = .ok s := by
    induction s with
    | nil => exact fun _ => rfl
    | cons c r ih =>
      intro start
      obtain ⟨hlow, hrest⟩ := isAscii_cons.1 h
      have hoctet : (UInt8.ofNat c.toNat).toNat = c.toNat := by
        rw [UInt8.toNat_ofNat']
        omega
      have hsmall : UInt8.ofNat c.toNat < 0x80 := by
        rw [UInt8.lt_iff_toNat_lt, hoctet]
        exact hlow
      have hpiece : ∀ rest, Utf8.firstPiece true (UInt8.ofNat c.toNat) rest = .char c 1 := by
        intro rest
        rw [Utf8.firstPiece.eq_def, if_pos hsmall, hoctet, Char.ofNat_toNat]
      have hencode : Utf8.encode (c :: r) = UInt8.ofNat c.toNat :: Utf8.encode r := by
        simp [Utf8.encode, Utf8.encodeChar_of_lt hlow]
      simp [hencode, Utf8.piecesFrom, hpiece, Piece.size, strictly,
        ih hrest, Except.map]
  exact hfrom 0

end InlineReview.Text
