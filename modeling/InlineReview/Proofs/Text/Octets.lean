import InlineReview.Text.Utf8
import Mathlib.Data.List.Basic

/-!
# Octets that are a text

A reader that refuses what is flawed takes octets apart into pieces.  Each of them has one of the
four forms in which UTF-8 writes a character, or the reader stops.

* `Utf8.firstPiece_eq_char_iff` — the first piece is a character exactly if the octets start with
  a form of it.
* `Utf8.Forms.codePoint` and `Utf8.forms_utf8EncodeChar` — the forms are what UTF-8 writes.
* `Utf8.decode_eq_ok_iff` — octets are read as a text exactly if UTF-8 writes the text so.
-/

namespace InlineReview.Text

namespace Utf8

/-! ## Ranges of octets -/

theorem within_iff {lo hi b : UInt8} :
    within lo hi b = true ↔ lo.toNat ≤ b.toNat ∧ b.toNat ≤ hi.toNat := by
  simp [within, UInt8.le_iff_toNat_le]

theorem isTail_iff {b : UInt8} : isTail b = true ↔ 0x80 ≤ b.toNat ∧ b.toNat ≤ 0xBF := within_iff

/-- Which octets may come second: overlong forms, halves of pairs and values above the last code
point are left out. -/
theorem isSecond_iff {b c : UInt8} : isSecond b c = true ↔ 0x80 ≤ c.toNat ∧ c.toNat ≤ 0xBF ∧
    (b.toNat = 0xE0 → 0xA0 ≤ c.toNat) ∧ (b.toNat = 0xED → c.toNat ≤ 0x9F) ∧
    (b.toNat = 0xF0 → 0x90 ≤ c.toNat) ∧ (b.toNat = 0xF4 → c.toNat ≤ 0x8F) := by
  unfold isSecond secondRange
  by_cases h₁ : b = 0xE0
  · subst h₁; simp [within_iff]; omega
  by_cases h₂ : b = 0xED
  · subst h₂; simp [within_iff]; omega
  by_cases h₃ : b = 0xF0
  · subst h₃; simp [within_iff]; omega
  by_cases h₄ : b = 0xF4
  · subst h₄; simp [within_iff]; omega
  simp only [← UInt8.toNat_inj, UInt8.reduceToNat] at h₁ h₂ h₃ h₄
  simp [within_iff, ← UInt8.toNat_inj, h₁, h₂, h₃, h₄]

/-! ## Characters -/

/-- The octets of one character with its code point: the forms that UTF-8 has. -/
inductive Forms : List UInt8 → Nat → Prop
  | one {b : UInt8} (hb : b < 0x80) : Forms [b] b.toNat
  | two {b c : UInt8} (hb : within 0xC2 0xDF b = true) (hc : isTail c = true) :
      Forms [b, c] (b.toNat % 32 * 64 + low6 c)
  | three {b c d : UInt8} (hb : within 0xE0 0xEF b = true) (hc : isSecond b c = true)
      (hd : isTail d = true) : Forms [b, c, d] (b.toNat % 16 * 4096 + low6 c * 64 + low6 d)
  | four {b c d e : UInt8} (hb : within 0xF0 0xF4 b = true) (hc : isSecond b c = true)
      (hd : isTail d = true) (he : isTail e = true) :
      Forms [b, c, d, e] (b.toNat % 8 * 262144 + low6 c * 4096 + low6 d * 64 + low6 e)

/-- A form at the front is read as its character. -/
theorem Forms.firstPiece {b : UInt8} {tail : List UInt8} {n : Nat} (h : Forms (b :: tail) n)
    (after : List UInt8) :
    firstPiece false b (tail ++ after) = .char (Char.ofNat n) (tail.length + 1) := by
  have above : ∀ lo : UInt8, ∀ hi, 0x80 ≤ lo.toNat → within lo hi b = true → ¬ b < 0x80 := by
    intro lo hi hlo hb
    rw [UInt8.lt_iff_toNat_lt]
    have := within_iff.1 hb
    simp only [UInt8.reduceToNat]
    omega
  have outside : ∀ lo hi lo' hi' : UInt8, hi'.toNat < lo.toNat → within lo hi b = true →
      within lo' hi' b = false := by
    intro lo hi lo' hi' hlt hb
    rw [Bool.eq_false_iff, ne_eq, within_iff]
    have := within_iff.1 hb
    omega
  cases h with
  | one hb => simp [Utf8.firstPiece, hb]
  | two hb hc => simp [Utf8.firstPiece, above _ _ (by decide) hb, hb, hc]
  | three hb hc hd =>
    simp [Utf8.firstPiece, above _ _ (by decide) hb, outside _ _ 0xC2 0xDF (by decide) hb, hb, hc,
      hd]
  | four hb hc hd he =>
    simp [Utf8.firstPiece, above _ _ (by decide) hb, outside _ _ 0xC2 0xDF (by decide) hb,
      outside _ _ 0xE0 0xEF (by decide) hb, hb, hc, hd, he]

/-- The first piece is a character exactly if the octets start with a form of it. -/
theorem firstPiece_eq_char_iff {b : UInt8} {rest : List UInt8} {x : Char} {k : Nat} :
    firstPiece false b rest = .char x k ↔
      ∃ tail after n, rest = tail ++ after ∧ Forms (b :: tail) n ∧ x = Char.ofNat n ∧
        k = tail.length + 1 := by
  constructor
  · intro h
    simp only [firstPiece, Bool.false_and, Bool.false_eq_true, if_false] at h
    -- every branch of the reader but four stops at a flaw
    repeat' split at h
    all_goals cases h
    · exact ⟨[], rest, _, rfl, .one ‹_›, rfl, rfl⟩
    · exact ⟨[_], _, _, rfl, .two ‹_› ‹_›, rfl, rfl⟩
    · exact ⟨[_, _], _, _, rfl, .three ‹_› ‹_› ‹_›, rfl, rfl⟩
    · exact ⟨[_, _, _], _, _, rfl, .four ‹_› ‹_› ‹_› ‹_›, rfl, rfl⟩
  · rintro ⟨tail, after, n, rfl, forms, rfl, rfl⟩
    exact forms.firstPiece after

theorem firstPiece_ne_pair {b : UInt8} {rest : List UInt8} {x y : Char} {k : Nat} :
    firstPiece false b rest ≠ .pair x y k := by
  intro h
  simp only [firstPiece, Bool.false_and, Bool.false_eq_true, if_false] at h
  repeat' split at h
  all_goals cases h

/-- The code point of a form is that of a character, and which of the four forms it has is told by
its size. -/
theorem Forms.codePoint {octets : List UInt8} {n : Nat} (h : Forms octets n) :
    (Char.ofNat n).val.toNat = n ∧ octets = String.utf8EncodeChar (Char.ofNat n) := by
  have hchar : n.isValidChar → (Char.ofNat n).val.toNat = n := fun valid => by
    rw [Char.ofNat, dif_pos valid]
    rfl
  cases h with
  | @one b hb =>
    have := UInt8.lt_iff_toNat_lt.1 hb
    simp only [UInt8.reduceToNat] at this
    have hn := hchar (by unfold Nat.isValidChar; omega)
    refine ⟨hn, ?_⟩
    rw [String.utf8EncodeChar.eq_1, hn, if_pos (by omega)]
    simp
  | @two b c hb hc =>
    have := within_iff.1 hb
    have := isTail_iff.1 hc
    unfold low6 at *
    simp only [UInt8.reduceToNat] at *
    have hn := hchar (by unfold Nat.isValidChar; omega)
    refine ⟨hn, ?_⟩
    rw [String.utf8EncodeChar.eq_1, hn, if_neg (by omega), if_pos (by omega)]
    simp only [List.cons.injEq, and_true, ← UInt8.toNat_inj, UInt8.toNat_ofNat']
    omega
  | @three b c d hb hc hd =>
    have := within_iff.1 hb
    have := isSecond_iff.1 hc
    have := isTail_iff.1 hd
    unfold low6 at *
    simp only [UInt8.reduceToNat] at *
    have hn := hchar (by unfold Nat.isValidChar; omega)
    refine ⟨hn, ?_⟩
    rw [String.utf8EncodeChar.eq_1, hn, if_neg (by omega), if_neg (by omega), if_pos (by omega)]
    simp only [List.cons.injEq, and_true, ← UInt8.toNat_inj, UInt8.toNat_ofNat']
    omega
  | @four b c d e hb hc hd he =>
    have := within_iff.1 hb
    have := isSecond_iff.1 hc
    have := isTail_iff.1 hd
    have := isTail_iff.1 he
    unfold low6 at *
    simp only [UInt8.reduceToNat] at *
    have hn := hchar (by unfold Nat.isValidChar; omega)
    refine ⟨hn, ?_⟩
    rw [String.utf8EncodeChar.eq_1, hn, if_neg (by omega), if_neg (by omega), if_neg (by omega)]
    simp only [List.cons.injEq, and_true, ← UInt8.toNat_inj, UInt8.toNat_ofNat']
    omega

/-- What UTF-8 writes for a character is a form of it. -/
theorem forms_utf8EncodeChar (c : Char) : Forms (String.utf8EncodeChar c) c.val.toNat := by
  have valid : c.val.toNat < 0xD800 ∨ (0xDFFF < c.val.toNat ∧ c.val.toNat < 0x110000) := c.valid
  generalize hn : c.val.toNat = n at valid ⊢
  have octet : ∀ k, k < 256 → (UInt8.ofNat k).toNat = k := fun k hk => by
    rw [UInt8.toNat_ofNat', Nat.mod_eq_of_lt hk]
  rw [String.utf8EncodeChar.eq_1, hn]
  split
  · rename_i h
    have form := Forms.one (b := UInt8.ofNat n) (by
      rw [UInt8.lt_iff_toNat_lt, octet _ (by omega)]; simp only [UInt8.reduceToNat]; omega)
    rwa [octet _ (by omega)] at form
  split
  · have hb := octet (n / 64 % 32 + 192) (by omega)
    have hc := octet (n % 64 + 128) (by omega)
    have form := Forms.two (b := UInt8.ofNat (n / 64 % 32 + 192)) (c := UInt8.ofNat (n % 64 + 128))
      (by rw [within_iff, hb]; simp only [UInt8.reduceToNat]; omega)
      (by rw [isTail_iff, hc]; omega)
    rw [low6, hb, hc] at form
    convert form using 1
    omega
  split
  · have hb := octet (n / 4096 % 16 + 224) (by omega)
    have hc := octet (n / 64 % 64 + 128) (by omega)
    have hd := octet (n % 64 + 128) (by omega)
    have form := Forms.three (b := UInt8.ofNat (n / 4096 % 16 + 224))
      (c := UInt8.ofNat (n / 64 % 64 + 128)) (d := UInt8.ofNat (n % 64 + 128))
      (by rw [within_iff, hb]; simp only [UInt8.reduceToNat]; omega)
      (by rw [isSecond_iff, hb, hc]; omega) (by rw [isTail_iff, hd]; omega)
    rw [low6, low6, hb, hc, hd] at form
    convert form using 1
    omega
  · have hb := octet (n / 262144 % 8 + 240) (by omega)
    have hc := octet (n / 4096 % 64 + 128) (by omega)
    have hd := octet (n / 64 % 64 + 128) (by omega)
    have he := octet (n % 64 + 128) (by omega)
    have form := Forms.four (b := UInt8.ofNat (n / 262144 % 8 + 240))
      (c := UInt8.ofNat (n / 4096 % 64 + 128)) (d := UInt8.ofNat (n / 64 % 64 + 128))
      (e := UInt8.ofNat (n % 64 + 128))
      (by rw [within_iff, hb]; simp only [UInt8.reduceToNat]; omega)
      (by rw [isSecond_iff, hb, hc]; omega) (by rw [isTail_iff, hd]; omega)
      (by rw [isTail_iff, he]; omega)
    rw [low6, low6, low6, hb, hc, hd, he] at form
    convert form using 1
    omega

/-! ## Texts -/

theorem piecesFrom_eq_drop (tolerant : Bool) (owed : Nat) (octets : List UInt8) :
    piecesFrom tolerant owed octets = piecesFrom tolerant 0 (octets.drop owed) := by
  induction octets generalizing owed with
  | nil => cases owed <;> rfl
  | cons b rest ih =>
    cases owed with
    | zero => rfl
    | succ k => exact ih k

/-- What UTF-8 writes for a character is read as the character, and then what follows it. -/
theorem strictly_char_append (encoding : String) (start : Nat) (c : Char) (after : List UInt8) :
    strictly encoding start (String.utf8EncodeChar c ++ after)
        (piecesFrom false 0 (String.utf8EncodeChar c ++ after)) =
      (strictly encoding (start + (String.utf8EncodeChar c).length) after
        (piecesFrom false 0 after)).map (c :: ·) := by
  have forms := forms_utf8EncodeChar c
  cases hoctets : String.utf8EncodeChar c with
  | nil => rw [hoctets] at forms; cases forms
  | cons b tail =>
    rw [hoctets] at forms
    have hfirst := forms.firstPiece after
    have hchar : Char.ofNat c.val.toNat = c := Char.ofNat_toNat c
    simp only [List.cons_append, piecesFrom, hfirst, hchar, Piece.size, strictly,
      Nat.add_sub_cancel, piecesFrom_eq_drop false tail.length, List.drop_left,
      List.length_cons, List.drop_succ_cons]

/-- Octets are read as a text exactly if UTF-8 writes the text so. -/
theorem strictly_eq_ok_iff {encoding : String} {start : Nat} {octets : List UInt8}
    {s : List Char} :
    strictly encoding start octets (piecesFrom false 0 octets) = .ok s ↔
      octets = s.flatMap String.utf8EncodeChar := by
  constructor
  · intro h
    -- the octets get shorter by one form at a time
    induction hlen : octets.length using Nat.strongRecOn generalizing octets start s with
    | ind size ih =>
      cases octets with
      | nil => cases h; rfl
      | cons b rest =>
        cases hfirst : firstPiece false b rest with
        | flawed why k => simp [piecesFrom, hfirst, strictly] at h
        | pair x y k => exact absurd hfirst firstPiece_ne_pair
        | char x k =>
          obtain ⟨tail, after, n, rfl, forms, rfl, rfl⟩ := firstPiece_eq_char_iff.1 hfirst
          have hwritten := forms.codePoint.2
          rw [← List.cons_append, hwritten, strictly_char_append] at h
          cases hafter : strictly encoding (start + (String.utf8EncodeChar (Char.ofNat n)).length)
              after (piecesFrom false 0 after) with
          | error fault => rw [hafter] at h; cases h
          | ok s' =>
            rw [hafter] at h
            cases h
            have hs' := ih after.length (by simp at hlen; omega) hafter rfl
            rw [List.flatMap_cons, ← hs', ← hwritten, List.cons_append]
  · rintro rfl
    induction s generalizing start with
    | nil => rfl
    | cons c s ih => rw [List.flatMap_cons, strictly_char_append, ih]; rfl

/-- Octets are read as a text exactly if UTF-8 writes the text so. -/
theorem decode_eq_ok_iff {octets : List UInt8} {s : List Char} :
    decode octets = .ok s ↔ octets = s.flatMap String.utf8EncodeChar := strictly_eq_ok_iff

end Utf8

end InlineReview.Text
