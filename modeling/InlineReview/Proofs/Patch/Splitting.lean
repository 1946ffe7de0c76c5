import InlineReview.Proofs.Text.Returns

/-!
# A patch and its lines

A newline at the end is all that the lines of a patch do not tell of its text: they are the lines
before it, or all lines where there is none.  The text is therefore had back from its lines and that
newline, and a patch has as many lines as newlines, and one more if no newline ends the last one.

* `PatchLine.splitL_append_newline`, `PatchLine.splitL_of_not_isEnded` — the lines of a patch.
* `PatchLine.splitL_unlinesL_eq` — the lines of joined lines.
* `PatchLine.split_inverse` — splitting undoes joining, and joining undoes splitting.
-/

namespace InlineReview

namespace Text

/-- Does a text end in a newline? -/
def IsEnded (s : List Char) : Prop := s.getLast? = some '\n'

instance : DecidablePred IsEnded := fun s => decEq s.getLast? (some '\n')

theorem isEnded_iff {s : List Char} : IsEnded s ↔ ∃ r, s = r ++ ['\n'] :=
  List.getLast?_eq_some_iff

theorem isEnded_append_newline (s : List Char) : IsEnded (s ++ ['\n']) :=
  isEnded_iff.2 ⟨s, rfl⟩

/-- There is one line more than there are newlines. -/
theorem length_linesL (s : List Char) : (linesL s).length = s.count '\n' + 1 := by
  induction s with
  | nil => rfl
  | cons c r ih =>
    by_cases hc : c = '\n'
    · rw [hc, linesL_newline_cons, List.length_cons, ih, List.count_cons_self]
    · rw [linesL_cons hc, List.length_modifyHead, ih, List.count_cons_of_ne hc]

/-- Joined lines end in a newline exactly if the last of several is empty. -/
theorem isEnded_unlinesL_iff {ls : List (List Char)} (h : ∀ l ∈ ls, '\n' ∉ l) :
    IsEnded (unlinesL ls) ↔ 1 < ls.length ∧ ls.getLast? = some [] := by
  rcases List.eq_nil_or_concat ls with rfl | ⟨ws, w, rfl⟩
  · simp [IsEnded, unlinesL, joinWith]
  · rw [List.concat_eq_append] at h ⊢
    have hlast : w.getLast? ≠ some '\n' := fun hw => h w (by simp) (List.mem_of_getLast? hw)
    have hempty : (ws ++ [w]).getLast? = some [] ↔ w = [] := by
      rw [List.getLast?_concat, Option.some_inj]
    rw [hempty]
    cases ws with
    | nil => simpa [IsEnded, unlinesL, joinWith] using hlast
    | cons v vs =>
      have hjoin : unlinesL (v :: vs ++ [w]) = unlinesL (v :: vs) ++ '\n' :: w :=
        joinWith_append_singleton (by simp) w
      rw [hjoin]
      cases w with
      | nil => simp [isEnded_append_newline]
      | cons c r =>
        have hend : (unlinesL (v :: vs) ++ '\n' :: c :: r).getLast? = (c :: r).getLast? := by
          rw [List.getLast?_append_of_ne_nil _ (by simp), List.getLast?_cons_cons]
        simp [IsEnded, hend, hlast]

end Text

namespace PatchLine

open Text

/-! ## Lines of a text -/

/-- A newline at the end closes the last line. -/
theorem splitL_append_newline (s : List Char) : splitL (s ++ ['\n']) = linesL s := by
  have hlines : pieces '\n' (s ++ ['\n']) = linesL s ++ [[]] := pieces_append_sep '\n' s []
  have hended : (s ++ ['\n']).getLast? = some '\n' := isEnded_append_newline s
  rw [splitL, if_pos hended, hlines, List.dropLast_concat]

theorem splitL_of_not_isEnded {s : List Char} (h : ¬ IsEnded s) : splitL s = linesL s :=
  if_neg h

/-- The newline that closes the last line, where there is one. -/
def ending (s : List Char) : List Char := if IsEnded s then ['\n'] else []

/-- A text is its lines, with the newline at its end. -/
theorem exists_splitL_eq (s : List Char) :
    ∃ r, splitL s = linesL r ∧ s = r ++ ending s := by
  by_cases h : IsEnded s
  · obtain ⟨r, rfl⟩ := isEnded_iff.1 h
    exact ⟨r, splitL_append_newline r, by rw [ending, if_pos h]⟩
  · exact ⟨s, splitL_of_not_isEnded h, by rw [ending, if_neg h, List.append_nil]⟩

theorem splitL_ne_nil (s : List Char) : splitL s ≠ [] := by
  obtain ⟨r, hsplit, -⟩ := exists_splitL_eq s
  rw [hsplit]
  exact pieces_ne_nil '\n' r

theorem newline_not_mem_of_mem_splitL {s l : List Char} (h : l ∈ splitL s) : '\n' ∉ l := by
  obtain ⟨r, hsplit, -⟩ := exists_splitL_eq s
  rw [hsplit] at h
  exact not_mem_of_mem_pieces h

/-- Joining undoes splitting. -/
theorem unlinesL_splitL (s : List Char) : unlinesL (splitL s) ++ ending s = s := by
  obtain ⟨r, hsplit, hs⟩ := exists_splitL_eq s
  rw [hsplit, unlinesL, linesL, joinWith_pieces, ← hs]

/-- A patch has as many lines as newlines, and one more if none ends the last line. -/
theorem length_splitL (s : List Char) :
    (splitL s).length = s.count '\n' + if IsEnded s then 0 else 1 := by
  by_cases h : IsEnded s
  · obtain ⟨r, rfl⟩ := isEnded_iff.1 h
    rw [splitL_append_newline, length_linesL, if_pos h, List.count_append]
    rfl
  · rw [splitL_of_not_isEnded h, length_linesL, if_neg h]

/-! ## Lines of joined lines -/

section Joined

variable {ls : List (List Char)}

/-- Splitting undoes joining, but for an empty last line, which has no newline after it. -/
theorem splitL_unlinesL_eq (hne : ls ≠ []) (h : ∀ l ∈ ls, '\n' ∉ l) :
    splitL (unlinesL ls) =
      if 1 < ls.length ∧ ls.getLast? = some [] then ls.dropLast else ls := by
  have hlines : pieces '\n' (unlinesL ls) = ls := pieces_joinWith hne h
  rw [splitL, hlines]
  exact if_congr (isEnded_unlinesL_iff h) rfl rfl

end Joined

/-! ## Patches -/

section Patches

variable {patch : String} {ls : List String}

theorem map_toList_split (patch : String) :
    (split patch).map String.toList = splitL patch.toList := by
  simp [split, Function.comp_def]

theorem split_eq_iff : split patch = ls ↔ splitL patch.toList = ls.map String.toList := by
  rw [← map_toList_split, List.map_inj_right fun _ _ => String.toList_inj.1]

theorem toList_intercalate_newline (ls : List String) :
    ("\n".intercalate ls).toList = unlinesL (ls.map String.toList) := by
  rw [String.toList_intercalate, unlinesL, joinWith_eq_intercalate]
  rfl

theorem newline_not_mem_of_mem_split {l : String} (h : l ∈ split patch) : '\n' ∉ l.toList := by
  apply newline_not_mem_of_mem_splitL (s := patch.toList)
  rw [← map_toList_split]
  exact List.mem_map_of_mem h

theorem split_intercalate_newline (hne : ls ≠ []) (h : ∀ l ∈ ls, '\n' ∉ l.toList) :
    split ("\n".intercalate ls ++ "\n") = ls := by
  rw [split_eq_iff, String.toList_append, toList_intercalate_newline]
  exact splitL_unlinesL_newline (by simpa using hne) (by simpa using h)

theorem split_intercalate (hne : ls ≠ []) (h : ∀ l ∈ ls, '\n' ∉ l.toList) :
    split ("\n".intercalate ls) =
      if 1 < ls.length ∧ ls.getLast? = some "" then ls.dropLast else ls := by
  have hlast : (ls.map String.toList).getLast? = some [] ↔ ls.getLast? = some "" := by
    rw [List.getLast?_map, Option.map_eq_some_iff]
    simp
  rw [split_eq_iff, toList_intercalate_newline,
    splitL_unlinesL_eq (by simpa using hne) (by simpa using h), List.length_map,
    apply_ite (List.map String.toList), List.map_dropLast]
  exact if_congr (and_congr_right fun _ => hlast) rfl rfl

theorem intercalate_split (patch : String) :
    "\n".intercalate (split patch) ++ (if IsEnded patch.toList then "\n" else "") = patch := by
  have hending : (if IsEnded patch.toList then "\n" else "").toList = ending patch.toList := by
    rw [ending, apply_ite String.toList]
    rfl
  rw [← String.toList_inj, String.toList_append, toList_intercalate_newline, map_toList_split,
    hending, unlinesL_splitL]

/-- Splitting undoes joining: lines are had back from the text in which a newline ends each of them,
and from the text without the last newline unless the last of several is empty, which is left out
then.  Joining undoes splitting: a patch is its lines with newlines between them, and one behind
them if the patch ends in one.  They are as many as its newlines, and one more if it does not. -/
theorem split_inverse :
    (∀ ls : List String, ls ≠ [] → (∀ l ∈ ls, '\n' ∉ l.toList) →
      split ("\n".intercalate ls ++ "\n") = ls ∧
      split ("\n".intercalate ls) =
        if 1 < ls.length ∧ ls.getLast? = some "" then ls.dropLast else ls) ∧
    ∀ patch : String,
      split patch ≠ [] ∧ (∀ l ∈ split patch, '\n' ∉ l.toList) ∧
      "\n".intercalate (split patch) ++ (if IsEnded patch.toList then "\n" else "") = patch ∧
      (split patch).length =
        patch.toList.count '\n' + if IsEnded patch.toList then 0 else 1 := by
  constructor
  · intro ls hne hfree
    exact ⟨split_intercalate_newline hne hfree, split_intercalate hne hfree⟩
  · intro patch
    have hne : split patch ≠ [] := by
      intro hnil
      exact splitL_ne_nil patch.toList (split_eq_iff.1 hnil)
    have hlength : (split patch).length = (splitL patch.toList).length := by
      rw [← map_toList_split, List.length_map]
    refine ⟨hne, fun l => newline_not_mem_of_mem_split, intercalate_split patch, ?_⟩
    rw [hlength, length_splitL]

/-- Of three lines with an empty one at the end all are had back if a newline ends it, and two if
not. -/
theorem split_emptyEnd :
    ["a", "b", ""] ≠ [] ∧ (∀ l ∈ ["a", "b", ""], '\n' ∉ l.toList) ∧
      split "a\nb\n\n" = ["a", "b", ""] ∧ split "a\nb\n" = ["a", "b"] := by
  have hfree : ∀ l ∈ ["a", "b", ""], '\n' ∉ l.toList := by decide
  have hjoined : "\n".intercalate ["a", "b", ""] = "a\nb\n" := by decide +kernel
  have hback := split_inverse.1 ["a", "b", ""] (by decide) hfree
  rw [hjoined] at hback
  exact ⟨by decide, hfree, hback⟩

end Patches

end PatchLine

end InlineReview
