import InlineReview.Proofs.Text.Lines

/-!
# Words and blanks

The words of a text are what its blanks set apart.  Cutting at one blank cuts the words as well, and
from this one equation follows how blanks before, between and after words are read, and that a text
with given words is nothing but these words with blanks around them.

* `words_append_blank` — words are cut at a blank.
* `words_eq_pair_iff` — which texts have two given words.
* `append_inj_of_isBlankRun` — blanks at the front of a text end where its first word starts.
* `trimL_append_blank` — a blank at the end of a text is trimmed.
-/

namespace InlineReview.Text

/-- Is there nothing but blanks in a text? -/
def IsBlankRun (s : List Char) : Prop := ∀ c ∈ s, isBlank c = true

/-- Is a text not empty and free of blanks? -/
def IsWord (w : List Char) : Prop := w ≠ [] ∧ ∀ c ∈ w, isBlank c = false

instance (s : List Char) : Decidable (IsBlankRun s) := List.decidableBAll _ s

@[simp] theorem isBlankRun_nil : IsBlankRun [] := by simp [IsBlankRun]

@[simp] theorem isBlankRun_cons {c : Char} {s : List Char} :
    IsBlankRun (c :: s) ↔ isBlank c = true ∧ IsBlankRun s := by
  simp [IsBlankRun]

/-! ## The words of a text -/

/-- Words are cut at a blank. -/
theorem words_append_blank {c : Char} (hc : isBlank c = true) (s r : List Char) :
    words (s ++ c :: r) = words s ++ words r := by
  unfold words
  rw [piecesWhere_eq_splitOnP, piecesWhere_eq_splitOnP, piecesWhere_eq_splitOnP,
    List.splitOnP_append_cons s r hc, List.filter_append]

theorem words_blank_cons {c : Char} (hc : isBlank c = true) (s : List Char) :
    words (c :: s) = words s := by
  have hcut := words_append_blank hc [] s
  simpa [words, piecesWhere] using hcut

theorem words_of_isWord {w : List Char} (h : IsWord w) : words w = [w] := by
  have hcut : piecesWhere isBlank w = [w] := by
    rw [piecesWhere_eq_splitOnP]
    exact List.splitOnP_eq_singleton h.2
  simp [words, hcut, h.1]

/-- Blanks at the front of a text are in none of its words. -/
theorem words_blanks_append {lead : List Char} (h : IsBlankRun lead) (s : List Char) :
    words (lead ++ s) = words s := by
  induction lead with
  | nil => rfl
  | cons c lead ih =>
    obtain ⟨hc, hlead⟩ := isBlankRun_cons.1 h
    rw [List.cons_append, words_blank_cons hc, ih hlead]

theorem words_of_isBlankRun {s : List Char} (h : IsBlankRun s) : words s = [] := by
  have hnil := words_blanks_append h []
  rw [List.append_nil] at hnil
  exact hnil

/-- A word that blanks or nothing follow is the first word. -/
theorem words_word_append {w rest : List Char} (hw : IsWord w)
    (hrest : ∀ c ∈ rest.head?, isBlank c = true) : words (w ++ rest) = w :: words rest := by
  cases rest with
  | nil =>
    rw [List.append_nil, words_of_isWord hw]
    rfl
  | cons c r =>
    have hc : isBlank c = true := hrest c rfl
    rw [words_append_blank hc, words_of_isWord hw, words_blank_cons hc]
    rfl

/-! ## The text of words -/

/-- A text that is not all blank opens with a word, after blanks perhaps. -/
theorem isBlankRun_or_exists_word (s : List Char) :
    IsBlankRun s ∨ ∃ lead w rest, s = lead ++ (w ++ rest) ∧ IsBlankRun lead ∧ IsWord w ∧
      ∀ c ∈ rest.head?, isBlank c = true := by
  induction s with
  | nil => exact Or.inl isBlankRun_nil
  | cons c s ih =>
    by_cases hc : isBlank c = true
    · rcases ih with hs | ⟨lead, w, rest, rfl, hlead, hw, hrest⟩
      · exact Or.inl (isBlankRun_cons.2 ⟨hc, hs⟩)
      · exact Or.inr ⟨c :: lead, w, rest, rfl, isBlankRun_cons.2 ⟨hc, hlead⟩, hw, hrest⟩
    · have hletter : isBlank c = false := by simpa using hc
      have hone : IsWord [c] := ⟨by simp, by simpa using hletter⟩
      refine Or.inr ?_
      rcases ih with hs | ⟨lead, w, rest, rfl, hlead, hw, hrest⟩
      · exact ⟨[], [c], s, rfl, isBlankRun_nil, hone, fun d hd => hs d (List.mem_of_mem_head? hd)⟩
      · -- the letter is a word of its own if blanks come next, and else the first of the word
        cases lead with
        | nil =>
          refine ⟨[], c :: w, rest, rfl, isBlankRun_nil, ⟨by simp, fun d hd => ?_⟩, hrest⟩
          rcases List.mem_cons.1 hd with rfl | hd
          · exact hletter
          · exact hw.2 d hd
        | cons b lead =>
          refine ⟨[], [c], b :: lead ++ (w ++ rest), rfl, isBlankRun_nil, hone, fun d hd => ?_⟩
          obtain rfl : b = d := by simpa using hd
          exact (isBlankRun_cons.1 hlead).1

/-- A text has a first word exactly if it opens with it, after blanks perhaps. -/
theorem words_eq_cons_iff {s w : List Char} {ws : List (List Char)} :
    words s = w :: ws ↔ ∃ lead rest, s = lead ++ (w ++ rest) ∧ IsBlankRun lead ∧ IsWord w ∧
      (∀ c ∈ rest.head?, isBlank c = true) ∧ words rest = ws := by
  constructor
  · intro h
    rcases isBlankRun_or_exists_word s with hs | ⟨lead, v, rest, rfl, hlead, hv, hrest⟩
    · rw [words_of_isBlankRun hs] at h
      cases h
    · rw [words_blanks_append hlead, words_word_append hv hrest] at h
      obtain ⟨rfl, hws⟩ := List.cons.inj h
      exact ⟨lead, rest, rfl, hlead, hv, hrest, hws⟩
  · rintro ⟨lead, rest, rfl, hlead, hw, hrest, rfl⟩
    rw [words_blanks_append hlead, words_word_append hw hrest]

theorem words_eq_nil_iff {s : List Char} : words s = [] ↔ IsBlankRun s := by
  constructor
  · intro h
    rcases isBlankRun_or_exists_word s with hs | ⟨lead, v, rest, rfl, hlead, hv, hrest⟩
    · exact hs
    · rw [words_blanks_append hlead, words_word_append hv hrest] at h
      cases h
  · exact words_of_isBlankRun

/-- A text has two words exactly if it is these two with blanks between them, and perhaps before and
after them. -/
theorem words_eq_pair_iff {s v w : List Char} :
    words s = [v, w] ↔ ∃ lead gap trail, s = lead ++ (v ++ (gap ++ (w ++ trail))) ∧
      IsBlankRun lead ∧ IsWord v ∧ gap ≠ [] ∧ IsBlankRun gap ∧ IsWord w ∧ IsBlankRun trail := by
  constructor
  · intro h
    obtain ⟨lead, rest, rfl, hlead, hv, hrest, hws⟩ := words_eq_cons_iff.1 h
    obtain ⟨gap, trail, rfl, hgap, hw, -, htrail⟩ := words_eq_cons_iff.1 hws
    refine ⟨lead, gap, trail, rfl, hlead, hv, ?_, hgap, hw, words_eq_nil_iff.1 htrail⟩
    -- without a gap the second word would follow the first one as if it were blank
    rintro rfl
    obtain ⟨c, r, rfl⟩ := List.exists_cons_of_ne_nil hw.1
    have hblank : isBlank c = true := hrest c rfl
    have hletter : isBlank c = false := hw.2 c (by simp)
    rw [hletter] at hblank
    cases hblank
  · rintro ⟨lead, gap, trail, rfl, hlead, hv, hgap, hgapBlank, hw, htrail⟩
    obtain ⟨c, r, rfl⟩ := List.exists_cons_of_ne_nil hgap
    obtain ⟨hc, hr⟩ := isBlankRun_cons.1 hgapBlank
    have htrailHead : ∀ d ∈ trail.head?, isBlank d = true :=
      fun d hd => htrail d (List.mem_of_mem_head? hd)
    rw [words_blanks_append hlead, List.cons_append, words_append_blank hc, words_of_isWord hv,
      words_blanks_append hr, words_word_append hw htrailHead, words_of_isBlankRun htrail]
    rfl

/-! ## Blanks at the ends -/

/-- Blanks at the front of a text end where something else starts. -/
theorem append_inj_of_isBlankRun {a b v w : List Char} (ha : IsBlankRun a) (hb : IsBlankRun b)
    (hv : ∀ c ∈ v.head?, isBlank c = false) (hw : ∀ c ∈ w.head?, isBlank c = false)
    (h : a ++ v = b ++ w) : a = b ∧ v = w := by
  have hfront : ∀ {s r : List Char}, IsBlankRun s → (∀ c ∈ r.head?, isBlank c = false) →
      (s ++ r).takeWhile isBlank = s := by
    intro s r hs hr
    have hend : r.takeWhile isBlank = [] := by
      cases r with
      | nil => rfl
      | cons c r => exact List.takeWhile_cons_of_neg (by simp [hr c rfl])
    rw [List.takeWhile_append_of_pos hs, hend, List.append_nil]
  have hab : a = b := by rw [← hfront ha hv, ← hfront hb hw, h]
  refine ⟨hab, ?_⟩
  rw [hab] at h
  exact List.append_cancel_left h

/-- A blank at the end of a text is trimmed. -/
theorem trimL_append_blank {c : Char} (hc : isBlank c = true) (s : List Char) :
    trimL (s ++ [c]) = trimL s := by
  unfold trimL trimWhere
  rw [List.dropWhile_append]
  by_cases hs : s.dropWhile isBlank = []
  · simp [hs, hc]
  · have hne : (s.dropWhile isBlank).isEmpty = false := by simpa using hs
    simp [hne, hc]

/-! ## Blanks and digits -/

/-- The numbers of the blank characters. -/
def blankCodes : List Nat :=
  List.range' 9 5 ++ List.range' 28 5 ++ [0x85, 0xA0, 0x1680] ++ List.range' 0x2000 11 ++
    [0x2028, 0x2029, 0x202F, 0x205F, 0x3000]

theorem toNat_mem_blankCodes {c : Char} (h : isBlank c = true) : c.toNat ∈ blankCodes := by
  simp only [isBlank, Bool.or_eq_true, Bool.and_eq_true, decide_eq_true_eq, beq_iff_eq] at h
  simp only [blankCodes, List.mem_append, List.mem_range'_1, List.mem_cons, List.not_mem_nil,
    or_false]
  omega

/-- No blank is a digit. -/
theorem not_isDigit_of_isBlank {c : Char} (h : isBlank c = true) : isDigit c = false := by
  have hcodes : ∀ n ∈ blankCodes, (decimalZeros.find? fun z => z ≤ n && n < z + 10) = none ∧
      (looseDigits.any fun range => range.1 ≤ n && n ≤ range.2) = false := by decide
  obtain ⟨hdecimal, hloose⟩ := hcodes c.toNat (toNat_mem_blankCodes h)
  have hvalue : digitValue? c = none := by simp [digitValue?, hdecimal]
  rw [isDigit, hvalue]
  exact hloose

end InlineReview.Text
