import InlineReview.Proofs.Text.Words
import Mathlib.Data.List.TakeWhile

/-!
# Trimmed texts

A text is what is left of it when it is trimmed, with blanks before and after.  What is left neither
begins nor ends with a blank, and a text can be taken apart like that in one way only.

* `trimL_eq_iff` — what is left of a text.
* `allBlank_iff` — which texts are left empty.
* `map_trimL_pieces` — the trimmed items of a list do not tell of blanks around the list.
-/

namespace InlineReview.Text

/-- Does a text neither begin nor end with a blank? -/
def IsTrimmed (s : List Char) : Prop :=
  (∀ c ∈ s.head?, isBlank c = false) ∧ ∀ c ∈ s.getLast?, isBlank c = false

section Blanks

variable {lead s t trail : List Char}

/-! ## Blanks around a text -/

theorem trimL_blanks_append (h : IsBlankRun lead) (s : List Char) :
    trimL (lead ++ s) = trimL s := by
  induction lead with
  | nil => rfl
  | cons c lead ih =>
    obtain ⟨hc, hlead⟩ := isBlankRun_cons.1 h
    rw [List.cons_append, trimL_blank_cons hc, ih hlead]

theorem trimL_append_blanks (h : IsBlankRun trail) (s : List Char) :
    trimL (s ++ trail) = trimL s := by
  induction trail generalizing s with
  | nil => rw [List.append_nil]
  | cons c trail ih =>
    obtain ⟨hc, htrail⟩ := isBlankRun_cons.1 h
    rw [List.append_cons, ih htrail, trimL_append_blank hc]

/-- What is trimmed off a text is blank. -/
theorem exists_trimL (s : List Char) :
    ∃ lead trail, s = lead ++ trimL s ++ trail ∧ IsBlankRun lead ∧ IsBlankRun trail := by
  refine ⟨s.takeWhile isBlank, ((s.dropWhile isBlank).reverse.takeWhile isBlank).reverse, ?_, ?_,
    ?_⟩
  · rw [trimL, trimWhere, List.append_assoc, ← List.reverse_append,
      List.takeWhile_append_dropWhile, List.reverse_reverse, List.takeWhile_append_dropWhile]
  · intro c hc
    exact List.mem_takeWhile_imp hc
  · intro c hc
    exact List.mem_takeWhile_imp (List.mem_reverse.1 hc)

theorem mem_of_mem_trimL {c : Char} (h : c ∈ trimL s) : c ∈ s := by
  obtain ⟨lead, trail, hs, -, -⟩ := exists_trimL s
  rw [hs]
  simp [h]

/-! ## What is left -/

theorem IsTrimmed.trimL_eq (h : IsTrimmed s) : trimL s = s := by
  have hdrop : ∀ r : List Char, (∀ c ∈ r.head?, isBlank c = false) → r.dropWhile isBlank = r := by
    intro r hr
    cases r with
    | nil => rfl
    | cons c r => exact List.dropWhile_cons_of_neg (by simp [hr c rfl])
  have hback : ∀ c ∈ s.reverse.head?, isBlank c = false := by
    rw [List.head?_reverse]
    exact h.2
  rw [trimL, trimWhere, hdrop s h.1, hdrop s.reverse hback, List.reverse_reverse]

theorem isTrimmed_trimL (s : List Char) : IsTrimmed (trimL s) := by
  have hhead : ∀ r : List Char, ∀ c ∈ (r.dropWhile isBlank).head?, isBlank c = false := by
    intro r c hc
    have hnot := List.head?_dropWhile_not isBlank r
    rw [Option.mem_def.1 hc] at hnot
    simpa using hnot
  constructor
  · -- the text without its last blanks begins as it did with them
    intro c hc
    have hprefix : trimL s <+: s.dropWhile isBlank := by
      rw [trimL, trimWhere, ← List.reverse_suffix, List.reverse_reverse]
      exact List.dropWhile_suffix _
    obtain ⟨r, hr⟩ := hprefix
    apply hhead s c
    rw [← hr, List.head?_append, Option.mem_def.1 hc]
    rfl
  · intro c hc
    rw [trimL, trimWhere, List.getLast?_reverse] at hc
    exact hhead _ c hc

/-- What is left of a text is the one trimmed text with which it can be written between blanks. -/
theorem trimL_eq_iff : trimL s = t ↔
    IsTrimmed t ∧ ∃ lead trail, IsBlankRun lead ∧ IsBlankRun trail ∧ s = lead ++ t ++ trail := by
  constructor
  · rintro rfl
    obtain ⟨lead, trail, hs, hlead, htrail⟩ := exists_trimL s
    exact ⟨isTrimmed_trimL s, lead, trail, hlead, htrail, hs⟩
  · rintro ⟨ht, lead, trail, hlead, htrail, rfl⟩
    rw [trimL_append_blanks htrail, trimL_blanks_append hlead, ht.trimL_eq]

theorem trimL_trimL (s : List Char) : trimL (trimL s) = trimL s := (isTrimmed_trimL s).trimL_eq

theorem trimL_eq_nil_iff : trimL s = [] ↔ IsBlankRun s := by
  constructor
  · intro h
    obtain ⟨lead, trail, hs, hlead, htrail⟩ := exists_trimL s
    rw [h, List.append_nil] at hs
    intro c hc
    rw [hs] at hc
    rcases List.mem_append.1 hc with hc | hc
    · exact hlead c hc
    · exact htrail c hc
  · intro h
    have hnil := trimL_blanks_append h []
    rw [List.append_nil] at hnil
    exact hnil

theorem allBlank_iff {s : String} : allBlank s = true ↔ IsBlankRun s.toList := List.all_eq_true

/-! ## Blanks around a list -/

section Pieces

variable {sep : Char} {w r : List Char} {ws : List (List Char)}

/-- A text without separators that comes behind others belongs to the last item. -/
theorem pieces_append (hr : sep ∉ r) (hs : pieces sep s = ws ++ [w]) :
    pieces sep (s ++ r) = ws ++ [w ++ r] := by
  have hjoin : joinWith sep (ws ++ [w ++ r]) = s ++ r := by
    rw [← joinWith_pieces sep s, hs]
    by_cases hws : ws = []
    · rw [hws]
      rfl
    · rw [joinWith_append_singleton hws, joinWith_append_singleton hws, List.append_assoc,
        List.cons_append]
  rw [← hjoin]
  refine pieces_joinWith (by simp) fun v hv => ?_
  rcases List.mem_append.1 hv with hv | hv
  · exact not_mem_of_mem_pieces (s := s) (by rw [hs]; exact List.mem_append_left _ hv)
  · have hw : sep ∉ w := not_mem_of_mem_pieces (s := s) (by rw [hs]; simp)
    rw [List.mem_singleton.1 hv]
    simp [hw, hr]

/-- A text without separators that comes before others belongs to the first item. -/
theorem pieces_append_left (hr : sep ∉ r) (hs : pieces sep s = w :: ws) :
    pieces sep (r ++ s) = (r ++ w) :: ws := by
  have hjoin : joinWith sep ((r ++ w) :: ws) = r ++ s := by
    rw [← joinWith_pieces sep s, hs]
    cases ws with
    | nil => rfl
    | cons v vs =>
      have hne : v :: vs ≠ [] := List.cons_ne_nil v vs
      rw [joinWith_cons hne, joinWith_cons hne, List.append_assoc]
  rw [← hjoin]
  refine pieces_joinWith (by simp) fun v hv => ?_
  rcases List.mem_cons.1 hv with rfl | hv
  · have hw : sep ∉ w := not_mem_of_mem_pieces (s := s) (by rw [hs]; simp)
    simp [hw, hr]
  · exact not_mem_of_mem_pieces (s := s) (by rw [hs]; exact List.mem_cons_of_mem _ hv)

/-- Blanks around a list do not show in its items when these are trimmed. -/
theorem map_trimL_pieces_append (hsep : isBlank sep = false) (hlead : IsBlankRun lead)
    (htrail : IsBlankRun trail) (s : List Char) :
    (pieces sep (lead ++ s ++ trail)).map trimL = (pieces sep s).map trimL := by
  have hfree : ∀ {r : List Char}, IsBlankRun r → sep ∉ r := by
    intro r hr hmem
    rw [hr sep hmem] at hsep
    cases hsep
  obtain ⟨w, ws, hfirst⟩ : ∃ w ws, pieces sep s = w :: ws :=
    List.exists_cons_of_ne_nil (piecesWhere_ne_nil _ s)
  obtain ⟨vs, v, hlast⟩ : ∃ vs v, pieces sep (lead ++ s) = vs ++ [v] :=
    ⟨_, _, (List.dropLast_concat_getLast (piecesWhere_ne_nil _ _)).symm⟩
  calc (pieces sep (lead ++ s ++ trail)).map trimL
    _ = (vs ++ [v ++ trail]).map trimL := by rw [pieces_append (hfree htrail) hlast]
    _ = (vs ++ [v]).map trimL := by
      rw [List.map_append, List.map_append, List.map_singleton, List.map_singleton,
        trimL_append_blanks htrail]
    _ = ((lead ++ w) :: ws).map trimL := by rw [← hlast, pieces_append_left (hfree hlead) hfirst]
    _ = (w :: ws).map trimL := by
      rw [List.map_cons, List.map_cons, trimL_blanks_append hlead]
    _ = (pieces sep s).map trimL := by rw [hfirst]

/-- The trimmed items of a list are those of the trimmed list. -/
theorem map_trimL_pieces (hsep : isBlank sep = false) (s : List Char) :
    (pieces sep s).map trimL = (pieces sep (trimL s)).map trimL := by
  obtain ⟨lead, trail, hs, hlead, htrail⟩ := exists_trimL s
  have haround := map_trimL_pieces_append hsep hlead htrail (trimL s)
  rw [← hs] at haround
  exact haround

end Pieces

end Blanks

end InlineReview.Text
