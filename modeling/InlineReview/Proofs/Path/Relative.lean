import InlineReview.Path
import InlineReview.Proofs.Text.Lines

/-!
# The way to a path

The parts of a path survive being written and read again, and the way from a directory to a path
leads only down exactly if the path lies in the directory.  A clean name, one between whose slashes
there is always a part that is no dot and no two dots, is such a way down.

* `parts_ofText_text`, `ofText_text` — what is written is read back.
* `wayFrom_append`, `eq_append_of_wayFrom` — ways that lead down.
* `text_relative_eq_iff` — when the way to a path is a given clean name.
-/

namespace InlineReview.Path

open Text

/-! ## Parts -/

/-- Can this be a part of a path? -/
structure IsPart (p : String) : Prop where
  ne_empty : p ≠ ""
  ne_dot : p ≠ "."
  no_slash : '/' ∉ p.toList

theorem isPart_above : IsPart above := ⟨by decide, by decide, by decide⟩

theorem isPart_of_mem_partsOf {s : List Char} {p : String} (h : p ∈ partsOf s) : IsPart p := by
  obtain ⟨hp, hkept⟩ := List.mem_filter.1 h
  obtain ⟨w, hw, rfl⟩ := List.mem_map.1 hp
  have hne : String.ofList w ≠ "" ∧ String.ofList w ≠ "." := by simpa using hkept
  have hslash : '/' ∉ w := not_mem_of_mem_pieces hw
  exact ⟨hne.1, hne.2, by simpa using hslash⟩

theorem partsOf_slash_cons (s : List Char) : partsOf ('/' :: s) = partsOf s := by
  have hpieces : pieces '/' ('/' :: s) = [] :: pieces '/' s := rfl
  simp [partsOf, hpieces]

/-- Parts that are joined are read back. -/
theorem partsOf_intercalate {ps : List String} (h : ∀ p ∈ ps, IsPart p) :
    partsOf (String.intercalate "/" ps).toList = ps := by
  by_cases hne : ps = []
  · subst hne
    rfl
  · have htext : (String.intercalate "/" ps).toList = joinWith '/' (ps.map String.toList) := by
      rw [String.toList_intercalate, joinWith_eq_intercalate]
      rfl
    have hpieces : pieces '/' (joinWith '/' (ps.map String.toList)) = ps.map String.toList := by
      refine pieces_joinWith (by simpa using hne) ?_
      intro w hw
      obtain ⟨p, hp, rfl⟩ := List.mem_map.1 hw
      exact (h p hp).no_slash
    have hback : (ps.map String.toList).map String.ofList = ps := by simp [Function.comp_def]
    rw [partsOf, htext, hpieces, hback, List.filter_eq_self]
    intro p hp
    simp [(h p hp).ne_empty, (h p hp).ne_dot]

theorem partsOf_anchor_append (a : Anchor) (s : String) :
    partsOf (a.text ++ s).toList = partsOf s.toList := by
  cases a with
  | none => rw [Anchor.text, String.empty_append]
  | slash =>
    rw [String.toList_append]
    exact partsOf_slash_cons _
  | twoSlashes =>
    rw [String.toList_append]
    exact (partsOf_slash_cons _).trans (partsOf_slash_cons _)

/-- What is written is read back. -/
theorem parts_ofText_text {q : Path} (h : ∀ p ∈ q.parts, IsPart p) :
    (ofText q.text).parts = q.parts := by
  have hbody : partsOf (q.anchor.text ++ String.intercalate "/" q.parts).toList = q.parts := by
    rw [partsOf_anchor_append, partsOf_intercalate h]
  by_cases hempty : q.anchor.text ++ String.intercalate "/" q.parts = ""
  · rw [hempty] at hbody
    rw [text, if_pos hempty, ← hbody]
    rfl
  · rw [text, if_neg hempty]
    exact hbody

/-- Parts that are joined do not start at the root. -/
theorem head?_intercalate_ne {ps : List String} (h : ∀ p ∈ ps, IsPart p) :
    (String.intercalate "/" ps).toList.head? ≠ some '/' := by
  cases ps with
  | nil => simp [String.intercalate]
  | cons p ps =>
    obtain ⟨hempty, -, hslash⟩ := h p (by simp)
    cases hp : p.toList with
    | nil => exact absurd (String.toList_inj.1 hp) hempty
    | cons c rest =>
      have hc : c ≠ '/' := fun e => hslash (by simp [hp, e])
      have hhead : (String.intercalate "/" (p :: ps)).toList.head? = some c := by
        rw [String.toList_intercalate]
        cases ps <;> simp [List.intercalate, hp]
      rw [hhead]
      simpa using hc

theorem anchorOf_append (a : Anchor) {s : List Char} (h : s.head? ≠ some '/') :
    anchorOf (a.text.toList ++ s) = a := by
  cases s with
  | nil => cases a <;> rfl
  | cons c rest =>
    have hc : c ≠ '/' := fun e => h (by rw [e]; rfl)
    cases a <;> simp [anchorOf, Anchor.text, hc]

/-- What is written is read back, with the anchor. -/
theorem ofText_text {q : Path} (h : ∀ p ∈ q.parts, IsPart p) : ofText q.text = q := by
  have hanchor : anchorOf q.text.toList = q.anchor := by
    by_cases hempty : q.anchor.text ++ String.intercalate "/" q.parts = ""
    · have hnone : q.anchor = .none := by
        cases hq : q.anchor <;> simp_all [Anchor.text]
      rw [text, if_pos hempty, hnone]
      rfl
    · rw [text, if_neg hempty, String.toList_append]
      exact anchorOf_append q.anchor (head?_intercalate_ne h)
  have hparts := parts_ofText_text h
  obtain ⟨anchor, parts⟩ := q
  rw [ofText, Path.mk.injEq]
  exact ⟨hanchor, hparts⟩

/-- No path is written as the empty text. -/
theorem text_ne_empty (q : Path) : q.text ≠ "" := by
  by_cases hempty : q.anchor.text ++ String.intercalate "/" q.parts = ""
  · rw [text, if_pos hempty]
    decide
  · rw [text, if_neg hempty]
    exact hempty

theorem isPart_of_mem_ofText {s p : String} (h : p ∈ (ofText s).parts) : IsPart p :=
  isPart_of_mem_partsOf h

theorem isPart_of_mem_join {directory q : Path} {p : String}
    (hd : ∀ p ∈ directory.parts, IsPart p) (hq : ∀ p ∈ q.parts, IsPart p)
    (h : p ∈ (directory.join q).parts) : IsPart p := by
  unfold join at h
  split at h
  · exact hq p h
  · rcases List.mem_append.1 h with hp | hp
    · exact hd p hp
    · exact hq p hp

/-! ## Components -/

theorem foldl_step_of_not_mem {ps : List String} (h : above ∉ ps) (cs : List String) :
    ps.foldl step cs = cs ++ ps := by
  induction ps generalizing cs with
  | nil => simp
  | cons p ps ih =>
    have hp : p ≠ above := fun e => h (by simp [e])
    have hps : above ∉ ps := fun hm => h (by simp [hm])
    rw [List.foldl_cons, step, if_neg hp, ih hps, List.append_assoc, List.singleton_append]

theorem mem_of_mem_foldl_step {ps cs : List String} {c : String} (h : c ∈ ps.foldl step cs) :
    c ∈ cs ∨ c ∈ ps := by
  induction ps generalizing cs with
  | nil => exact .inl h
  | cons p ps ih =>
    rcases ih h with hc | hc
    · unfold step at hc
      split at hc
      · exact .inl (List.dropLast_subset _ hc)
      · rcases List.mem_append.1 hc with hc | hc
        · exact .inl hc
        · exact .inr (by simp [List.mem_singleton.1 hc])
    · exact .inr (List.mem_cons_of_mem p hc)

theorem mem_parts_of_mem_components {q : Path} {c : String} (h : c ∈ q.components) :
    c ∈ q.parts := by
  rcases mem_of_mem_foldl_step h with hc | hc
  · cases hc
  · exact hc

/-- A path below a directory has the components of the directory, followed by its own. -/
theorem components_join_of_not_mem {directory q : Path} (hrelative : q.anchor = .none)
    (h : above ∉ q.parts) : (directory.join q).components = directory.components ++ q.parts := by
  have hjoin : directory.join q = { directory with parts := directory.parts ++ q.parts } := by
    simp [join, isAbsolute, hrelative]
  rw [hjoin, components, List.foldl_append]
  exact foldl_step_of_not_mem h _

theorem join_join {directory q r : Path} (hrelative : r.anchor = .none) :
    directory.join (q.join r) = (directory.join q).join r := by
  by_cases hq : q.isAbsolute = true <;> simp_all [join, isAbsolute]

/-! ## Ways -/

/-- The way to what lies in a directory leads down. -/
theorem wayFrom_append (root rest : List String) : wayFrom root (root ++ rest) = rest := by
  induction root with
  | nil => simp [wayFrom]
  | cons a root ih => rw [List.cons_append, wayFrom, if_pos rfl, ih]

/-- A way that leads down leads to what lies in the directory. -/
theorem eq_append_of_wayFrom {root target : List String} (h : above ∉ wayFrom root target) :
    target = root ++ wayFrom root target := by
  fun_induction wayFrom root target with
  | case1 root b target ih => rw [List.cons_append, ← ih h]
  | case2 a root b target hne => simp at h
  | case3 root target hnot =>
    cases root with
    | nil => simp
    | cons a root => simp at h

theorem isPart_of_mem_wayFrom {root target : List String} {p : String}
    (htarget : ∀ c ∈ target, IsPart c) (h : p ∈ wayFrom root target) : IsPart p := by
  fun_induction wayFrom root target with
  | case1 root b target ih => exact ih (fun c hc => htarget c (by simp [hc])) h
  | case2 a root b target hne =>
    rcases List.mem_append.1 h with hp | hp
    · rw [List.eq_of_mem_replicate hp]
      exact isPart_above
    · exact htarget p hp
  | case3 root target hnot =>
    rcases List.mem_append.1 h with hp | hp
    · rw [List.eq_of_mem_replicate hp]
      exact isPart_above
    · exact htarget p hp

/-! ## Clean names -/

/-- Is this the name of something below a directory, without any detour?  No part between its
slashes is empty, a dot or two dots, and so there is none at its front. -/
def IsClean (name : String) : Prop :=
  ∀ part ∈ pieces '/' name.toList, part ≠ [] ∧ part ≠ ['.'] ∧ part ≠ ['.', '.']

instance (name : String) : Decidable (IsClean name) :=
  List.decidableBAll (fun part : List Char => part ≠ [] ∧ part ≠ ['.'] ∧ part ≠ ['.', '.']) _

namespace IsClean

variable {name : String}

theorem anchor_eq (h : IsClean name) : (ofText name).anchor = .none := by
  have hlead : ∀ s, name.toList ≠ '/' :: s := by
    intro s hs
    have hpieces : pieces '/' name.toList = [] :: pieces '/' s := by rw [hs]; rfl
    exact (h [] (by simp [hpieces])).1 rfl
  show anchorOf name.toList = .none
  unfold anchorOf
  split
  · rename_i r heq
    exact absurd heq (hlead _)
  · rename_i r _ heq
    exact absurd heq (hlead _)
  · rename_i r _ _ heq
    exact absurd heq (hlead _)
  · rfl

theorem parts_eq (h : IsClean name) :
    (ofText name).parts = (pieces '/' name.toList).map String.ofList := by
  show partsOf name.toList = _
  rw [partsOf, List.filter_eq_self]
  intro p hp
  obtain ⟨w, hw, rfl⟩ := List.mem_map.1 hp
  obtain ⟨hempty, hdot, -⟩ := h w hw
  have hne : String.ofList w ≠ "" := fun e => hempty (String.ofList_injective e)
  have hne' : String.ofList w ≠ "." := fun e => hdot (String.ofList_injective e)
  simp [hne, hne']

theorem above_not_mem (h : IsClean name) : above ∉ (ofText name).parts := by
  rw [h.parts_eq]
  intro hmem
  obtain ⟨w, hw, heq⟩ := List.mem_map.1 hmem
  exact (h w hw).2.2 (String.ofList_injective heq)

theorem text_eq (h : IsClean name) : (ofText name).text = name := by
  have hbody : String.intercalate "/" (ofText name).parts = name := by
    have hback : ((pieces '/' name.toList).map String.ofList).map String.toList =
        pieces '/' name.toList := by simp [Function.comp_def]
    have hjoin : ['/'].intercalate (pieces '/' name.toList) = name.toList := by
      rw [← joinWith_eq_intercalate, joinWith_pieces]
    rw [h.parts_eq, ← String.toList_inj, String.toList_intercalate, hback]
    exact hjoin
  have hne : name ≠ "" := by
    rintro rfl
    exact (h [] (by decide)).1 rfl
  rw [text, h.anchor_eq, Anchor.text, String.empty_append, hbody, if_neg hne]

end IsClean

/-- The way from a directory to a path is a clean name exactly if the path has the components of
the directory and then those of the name. -/
theorem text_relative_eq_iff {root target : Path} {name : String}
    (htarget : ∀ p ∈ target.parts, IsPart p) (hname : IsClean name) :
    (relative root target).text = name ↔
      target.components = root.components ++ (ofText name).parts := by
  have hway : ∀ p ∈ (relative root target).parts, IsPart p := fun p hp =>
    isPart_of_mem_wayFrom (fun c hc => htarget c (mem_parts_of_mem_components hc)) hp
  constructor
  · intro h
    have hparts : wayFrom root.components target.components = (ofText name).parts := by
      rw [← h]
      exact (parts_ofText_text hway).symm
    have hdown : above ∉ wayFrom root.components target.components := by
      rw [hparts]
      exact hname.above_not_mem
    rw [← hparts]
    exact eq_append_of_wayFrom hdown
  · intro h
    have hrelative : relative root target = ofText name := by
      rw [relative, h, wayFrom_append, ← hname.anchor_eq]
    rw [hrelative, hname.text_eq]

end InlineReview.Path
