import InlineReview.Patch.PatchLine
import InlineReview.Text.Lines

/-!
# Cutting a text and joining it again

Cutting at a character is the library's `splitOn` and joining with it the library's `intercalate`,
so that each undoes the other.  The physical lines of a patch are the lines from which it was
joined, whether or not a newline ends the last of them.

* `eq_of_append_cons` — a list is cut in one way at the first of some items.
* `pieces_joinWith`, `joinWith_pieces` — cutting undoes joining, and joining cutting.
* `pieces_append_sep` — cutting goes on alike behind any occurrence of the character.
* `exists_breakOn?`, `isInfix_append_cons` — where a needle stands in a text.
* `splitL_unlinesL_newline`, `splitL_unlinesL` — the physical lines of joined lines.
-/

namespace InlineReview.Text

/-- A list is cut in one way at the first of some items. -/
theorem eq_of_append_cons {α : Type} {a : α} {s s' t t' : List α} (hs : a ∉ s) (hs' : a ∉ s')
    (h : s ++ a :: t = s' ++ a :: t') : s = s' ∧ t = t' := by
  induction s generalizing s' with
  | nil =>
    cases s' with
    | nil => exact ⟨rfl, (List.cons.inj h).2⟩
    | cons b s' =>
      obtain ⟨rfl, -⟩ := List.cons.inj h
      exact absurd List.mem_cons_self hs'
  | cons b s ih =>
    cases s' with
    | nil =>
      obtain ⟨rfl, -⟩ := List.cons.inj h
      exact absurd List.mem_cons_self hs
    | cons b' s' =>
      obtain ⟨rfl, htail⟩ := List.cons.inj h
      have hrest := ih (fun hm => hs (List.mem_cons_of_mem b hm))
        (fun hm => hs' (List.mem_cons_of_mem b hm)) htail
      exact ⟨by rw [hrest.1], hrest.2⟩

/-! ## Cutting -/

theorem piecesWhere_eq_splitOnP (p : Char → Bool) (s : List Char) :
    piecesWhere p s = s.splitOnP p := by
  induction s with
  | nil => rfl
  | cons c r ih =>
    rw [List.splitOnP_cons_eq_if_modifyHead, piecesWhere, ih]
    split
    · rfl
    · cases h : r.splitOnP p with
      | nil => exact absurd h (List.splitOnP_ne_nil p r)
      | cons w ws => rfl

theorem pieces_ne_nil (sep : Char) (s : List Char) : pieces sep s ≠ [] := piecesWhere_ne_nil _ s

theorem joinWith_cons {sep : Char} {ws : List (List Char)} (hne : ws ≠ []) (w : List Char) :
    joinWith sep (w :: ws) = w ++ sep :: joinWith sep ws := by
  cases ws with
  | nil => exact absurd rfl hne
  | cons v vs => rfl

theorem joinWith_eq_intercalate (sep : Char) (ws : List (List Char)) :
    joinWith sep ws = [sep].intercalate ws := by
  induction ws with
  | nil => rfl
  | cons w ws ih =>
    cases ws with
    | nil => simp [joinWith]
    | cons v vs =>
      rw [joinWith_cons (by simp), ih, List.intercalate_cons_cons]
      simp

/-- Cutting at a character undoes joining with it. -/
theorem pieces_joinWith {sep : Char} {ws : List (List Char)} (hne : ws ≠ [])
    (h : ∀ w ∈ ws, sep ∉ w) : pieces sep (joinWith sep ws) = ws := by
  rw [pieces, piecesWhere_eq_splitOnP, joinWith_eq_intercalate, ← List.splitOn_eq_splitOnP]
  exact List.splitOn_intercalate sep h hne

/-- Joining undoes cutting. -/
theorem joinWith_pieces (sep : Char) (s : List Char) : joinWith sep (pieces sep s) = s := by
  rw [pieces, piecesWhere_eq_splitOnP, joinWith_eq_intercalate, ← List.splitOn_eq_splitOnP]
  exact List.intercalate_splitOn sep

/-- Cutting goes on alike behind any occurrence of the character. -/
theorem pieces_append_sep (sep : Char) (s r : List Char) :
    pieces sep (s ++ sep :: r) = pieces sep s ++ pieces sep r := by
  simp only [pieces, piecesWhere_eq_splitOnP]
  exact List.splitOnP_append_cons s r (beq_self_eq_true sep)

theorem pieces_of_not_mem {sep : Char} {w : List Char} (h : sep ∉ w) : pieces sep w = [w] := by
  have hfree : ∀ v ∈ [w], sep ∉ v := by simpa using h
  exact pieces_joinWith (List.cons_ne_nil w []) hfree

/-- A piece is cut off at the character behind it. -/
theorem pieces_append_cons {sep : Char} {w : List Char} (h : sep ∉ w) (s : List Char) :
    pieces sep (w ++ sep :: s) = w :: pieces sep s := by
  rw [pieces_append_sep, pieces_of_not_mem h, List.singleton_append]

/-- What is cut at a character does not hold it. -/
theorem not_mem_of_mem_pieces {sep : Char} {s w : List Char} (h : w ∈ pieces sep s) : sep ∉ w := by
  induction s generalizing w with
  | nil =>
    rw [List.mem_singleton.1 h]
    exact List.not_mem_nil
  | cons c r ih =>
    have hcut : pieces sep (c :: r) =
        if c == sep then [] :: pieces sep r else (pieces sep r).modifyHead (c :: ·) := by
      rw [pieces, pieces, piecesWhere_eq_splitOnP, piecesWhere_eq_splitOnP,
        List.splitOnP_cons_eq_if_modifyHead]
    rw [hcut] at h
    split at h
    · rcases List.mem_cons.1 h with rfl | hw
      · exact List.not_mem_nil
      · exact ih hw
    · rename_i hc
      cases hr : pieces sep r with
      | nil => exact absurd hr (piecesWhere_ne_nil _ r)
      | cons v vs =>
        rw [hr] at h
        rcases List.mem_cons.1 h with rfl | hw
        · have hne : sep ≠ c := fun e => hc (by simp [e])
          have hv : sep ∉ v := ih (by simp [hr])
          simp [hne, hv]
        · exact ih (by simp [hr, hw])

/-- What stands in a piece stands in the joined text. -/
theorem mem_joinWith {c sep : Char} {w : List Char} {ws : List (List Char)} (hw : w ∈ ws)
    (hc : c ∈ w) : c ∈ joinWith sep ws := by
  induction ws with
  | nil => exact absurd hw List.not_mem_nil
  | cons v vs ih =>
    cases vs with
    | nil =>
      rw [List.mem_singleton.1 hw] at hc
      exact hc
    | cons u us =>
      rw [joinWith_cons (by simp)]
      rcases List.mem_cons.1 hw with rfl | hrest
      · exact List.mem_append_left _ hc
      · exact List.mem_append_right _ (List.mem_cons_of_mem sep (ih hrest))

theorem mem_of_mem_pieces {c sep : Char} {s w : List Char} (hw : w ∈ pieces sep s) (hc : c ∈ w) :
    c ∈ s := by
  rw [← joinWith_pieces sep s]
  exact mem_joinWith hw hc

theorem joinWith_append_singleton {sep : Char} {ws : List (List Char)} (h : ws ≠ [])
    (w : List Char) : joinWith sep (ws ++ [w]) = joinWith sep ws ++ sep :: w := by
  induction ws with
  | nil => exact absurd rfl h
  | cons v vs ih =>
    cases vs with
    | nil => rfl
    | cons u us =>
      rw [List.cons_append, joinWith_cons (by simp), joinWith_cons (by simp), ih (by simp),
        List.append_assoc, List.cons_append]

theorem trimL_blank_cons {c : Char} (hc : isBlank c = true) (s : List Char) :
    trimL (c :: s) = trimL s := by
  simp [trimL, trimWhere, hc]

/-! ## Searching -/

/-- A text is broken at its first occurrence of a needle; a first character that stands nowhere
before it cannot start an earlier one. -/
theorem breakOn?_append {a : Char} {needle before : List Char} (rest : List Char)
    (h : a ∉ before) :
    breakOn? (a :: needle) (before ++ (a :: needle ++ rest)) = some (before, rest) := by
  induction before with
  | nil =>
    have hlead : dropLead? (a :: needle) (a :: (needle ++ rest)) = some rest :=
      dropLead?_append (a :: needle) rest
    rw [List.nil_append, List.cons_append, breakOn?, hlead]
  | cons c r ih =>
    have hac : a ≠ c := fun e => h (by simp [e])
    have hr := ih fun hm => h (by simp [hm])
    rw [List.cons_append, breakOn?, dropLead?, if_neg hac, hr]
    rfl

theorem dropLead?_eq_some_iff {lead text rest : List Char} :
    dropLead? lead text = some rest ↔ text = lead ++ rest := by
  constructor
  · exact eq_append_of_dropLead?
  · rintro rfl
    exact dropLead?_append lead rest

/-- The parts around a needle are the parts around its first occurrence. -/
theorem breakOn?_eq_some_iff {needle text before rest : List Char} :
    breakOn? needle text = some (before, rest) ↔
      text = before ++ needle ++ rest ∧
        ∀ b r, text = b ++ needle ++ r → before.length ≤ b.length := by
  induction text generalizing before with
  | nil =>
    by_cases hneedle : needle = []
    · rw [hneedle]
      constructor
      · intro h
        obtain ⟨rfl, rfl⟩ := Prod.mk.inj (Option.some.inj h)
        exact ⟨rfl, fun _ _ _ => Nat.zero_le _⟩
      · rintro ⟨h, -⟩
        obtain ⟨rfl, rfl⟩ : before = [] ∧ rest = [] := by simpa using h.symm
        rfl
    · simp [breakOn?, hneedle]
  | cons c s ih =>
    cases hlead : dropLead? needle (c :: s) with
    | some r =>
      have htext : c :: s = needle ++ r := dropLead?_eq_some_iff.1 hlead
      have hbreak : breakOn? needle (c :: s) = some ([], r) := by rw [breakOn?, hlead]
      rw [hbreak, htext]
      constructor
      · intro h
        obtain ⟨rfl, rfl⟩ := Prod.mk.inj (Option.some.inj h)
        exact ⟨by simp, fun b r _ => Nat.zero_le _⟩
      · rintro ⟨hparts, hfirst⟩
        have hnil : before = [] := List.length_eq_zero_iff.1 (by simpa using hfirst [] r (by simp))
        rw [hnil] at hparts ⊢
        have hrest : r = rest := by simpa using hparts
        rw [hrest]
    | none =>
      -- The needle does not stand at the front, so that every occurrence has a character before it.
      have hfront : ∀ r, c :: s ≠ needle ++ r := fun r h => by
        rw [dropLead?_eq_some_iff.2 h] at hlead
        cases hlead
      have hbreak : breakOn? needle (c :: s) =
          (breakOn? needle s).map fun parts => (c :: parts.1, parts.2) := by rw [breakOn?, hlead]
      rw [hbreak, Option.map_eq_some_iff]
      constructor
      · rintro ⟨⟨b, r⟩, hs, h⟩
        obtain ⟨rfl, rfl⟩ := Prod.mk.inj h
        obtain ⟨hparts, hfirst⟩ := ih.1 hs
        refine ⟨by rw [hparts]; simp, fun b' r' h' => ?_⟩
        cases b' with
        | nil => exact absurd h' (by simpa using hfront r')
        | cons d b' =>
          have htail : s = b' ++ needle ++ r' := (List.cons.inj h').2
          exact Nat.succ_le_succ (hfirst b' r' htail)
      · rintro ⟨hparts, hfirst⟩
        cases before with
        | nil => exact absurd hparts (by simpa using hfront rest)
        | cons d before =>
          obtain ⟨rfl, htail⟩ := List.cons.inj hparts
          refine ⟨(before, rest), ih.2 ⟨htail, fun b' r' h' => ?_⟩, rfl⟩
          have hle := hfirst (c :: b') r' (by rw [h']; simp)
          exact Nat.le_of_succ_le_succ hle

/-- A text is broken wherever a needle stands in it. -/
theorem exists_breakOn? (needle before rest : List Char) :
    ∃ b r, breakOn? needle (before ++ (needle ++ rest)) = some (b, r) := by
  induction before with
  | nil =>
    cases needle with
    | nil =>
      cases rest with
      | nil => exact ⟨[], [], rfl⟩
      | cons c r => exact ⟨[], c :: r, rfl⟩
    | cons a needle =>
      refine ⟨[], rest, ?_⟩
      have hlead : dropLead? (a :: needle) (a :: (needle ++ rest)) = some rest :=
        dropLead?_append (a :: needle) rest
      rw [List.nil_append, List.cons_append, breakOn?, hlead]
  | cons c before ih =>
    obtain ⟨b, r, hbreak⟩ := ih
    rw [List.cons_append, breakOn?]
    split
    · rename_i r' hlead
      exact ⟨[], r', rfl⟩
    · rw [hbreak]
      exact ⟨c :: b, r, rfl⟩

/-- A character that is not in a needle ends every beginning of the needle. -/
theorem isPrefix_append_cons {c : Char} {needle s : List Char} (r : List Char) (hc : c ∉ needle) :
    needle <+: s ++ c :: r ↔ needle <+: s := by
  induction s generalizing needle with
  | nil =>
    cases needle with
    | nil => simp
    | cons a needle =>
      have hac : a ≠ c := fun heq => hc (heq ▸ List.mem_cons_self)
      simp [List.cons_prefix_cons, hac]
  | cons d s ih =>
    cases needle with
    | nil => simp
    | cons a needle =>
      have hrest : c ∉ needle := fun hmem => hc (List.mem_cons_of_mem a hmem)
      rw [List.cons_append, List.cons_prefix_cons, List.cons_prefix_cons, ih hrest]

/-- A needle stands on one side of a character that is not in it. -/
theorem isInfix_append_cons {c : Char} {needle s : List Char} (r : List Char) (hc : c ∉ needle) :
    needle <:+: s ++ c :: r ↔ needle <:+: s ∨ needle <:+: r := by
  induction s with
  | nil =>
    have hfront := isPrefix_append_cons (s := []) r hc
    rw [List.nil_append] at hfront
    rw [List.nil_append, List.infix_cons_iff, hfront, List.prefix_nil, List.infix_nil]
  | cons d s ih =>
    have hfront := isPrefix_append_cons (s := d :: s) r hc
    rw [List.cons_append] at hfront
    rw [List.cons_append, List.infix_cons_iff, List.infix_cons_iff, hfront, ih, or_assoc]

theorem breakAt_of_not_mem {sep : Char} {s : List Char} (h : sep ∉ s) :
    breakAt sep s = (s, none) := by
  induction s with
  | nil => rfl
  | cons c r ih =>
    have hc : c ≠ sep := fun e => h (by simp [e])
    rw [breakAt, if_neg hc, ih fun hm => h (by simp [hm])]

theorem breakAt_append_cons {sep : Char} {s : List Char} (r : List Char) (h : sep ∉ s) :
    breakAt sep (s ++ sep :: r) = (s, some r) := by
  induction s with
  | nil => simp [breakAt]
  | cons c s ih =>
    have hc : c ≠ sep := fun e => h (by simp [e])
    rw [List.cons_append, breakAt, if_neg hc, ih fun hm => h (by simp [hm])]

/-- What stands before and after a separator makes up the text. -/
theorem eq_of_breakAt {sep : Char} {s before : List Char} {rest : Option (List Char)}
    (h : breakAt sep s = (before, rest)) : s = before ++ (rest.map (sep :: ·)).getD [] := by
  induction s generalizing before with
  | nil =>
    obtain ⟨rfl, rfl⟩ := Prod.mk.inj h
    rfl
  | cons c r ih =>
    by_cases hc : c = sep
    · rw [breakAt, if_pos hc] at h
      obtain ⟨rfl, rfl⟩ := Prod.mk.inj h
      simp [hc]
    · rw [breakAt, if_neg hc] at h
      obtain ⟨rfl, rfl⟩ := Prod.mk.inj h
      rw [List.cons_append, ← ih rfl]

end InlineReview.Text

namespace InlineReview.PatchLine

open Text

/-! ## Physical lines -/

/-- A newline after the last line ends that line. -/
theorem splitL_unlinesL_newline {ls : List (List Char)} (hne : ls ≠ [])
    (h : ∀ l ∈ ls, '\n' ∉ l) : splitL (unlinesL ls ++ ['\n']) = ls := by
  have hjoin : unlinesL ls ++ ['\n'] = joinWith '\n' (ls ++ [[]]) :=
    (joinWith_append_singleton hne []).symm
  have hfree : ∀ l ∈ ls ++ [[]], '\n' ∉ l := by
    intro l hl
    rcases List.mem_append.1 hl with hl | hl
    · exact h l hl
    · rw [List.mem_singleton.1 hl]
      exact List.not_mem_nil
  have hcut : pieces '\n' (unlinesL ls ++ ['\n']) = ls ++ [[]] := by
    rw [hjoin]
    exact pieces_joinWith (by simp) hfree
  simp [splitL, hcut]

/-- Without a newline after it, a last line that is not empty is a line all the same. -/
theorem splitL_unlinesL {ls : List (List Char)} {l : List Char} {c : Char}
    (h : ∀ k ∈ ls ++ [l ++ [c]], '\n' ∉ k) :
    splitL (unlinesL (ls ++ [l ++ [c]])) = ls ++ [l ++ [c]] := by
  have hc : c ≠ '\n' := fun e => h (l ++ [c]) (by simp) (by simp [e])
  have hlast : (unlinesL (ls ++ [l ++ [c]])).getLast? = some c := by
    by_cases hls : ls = []
    · rw [hls]
      simp [unlinesL, joinWith]
    · rw [unlinesL, joinWith_append_singleton hls, ← List.cons_append, ← List.append_assoc,
        List.getLast?_concat]
  have hcut : pieces '\n' (unlinesL (ls ++ [l ++ [c]])) = ls ++ [l ++ [c]] :=
    pieces_joinWith (by simp) h
  simp [splitL, hcut, hlast, hc]

end InlineReview.PatchLine
