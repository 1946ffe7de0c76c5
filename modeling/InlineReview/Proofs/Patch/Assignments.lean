import InlineReview.Patch.PositionMap

/-!
# The lines that a patch numbers

`PositionMap.assignments` goes through the lines of a patch with two counts, the place of a line
and the number that the next shown line takes.  Both counts go on from one part of a patch to the
next, places only ever grow, and a pair is assigned exactly where a line is shown.

* `assignments_append` — a patch is gone through part by part.
* `mem_assignments` — which pairs are assigned.
* `assignments_places` — places grow.
-/

namespace InlineReview

/-! ## Maps without repeated keys -/

namespace Assoc

variable {κ ν : Type} [DecidableEq κ]

theorem put_of_forall_ne {key : κ} {value : ν} {m : List (κ × ν)} (h : ∀ e ∈ m, e.1 ≠ key) :
    put key value m = m ++ [(key, value)] := by
  induction m with
  | nil => rfl
  | cons e rest ih =>
    obtain ⟨k, v⟩ := e
    have hk : k ≠ key := h (k, v) (by simp)
    have hrest := ih fun e he => h e (by simp [he])
    rw [put, if_neg hk, hrest, List.cons_append]

theorem putAll_of_nodup {entries m : List (κ × ν)} (h : ((m ++ entries).map Prod.fst).Nodup) :
    putAll entries m = m ++ entries := by
  induction entries generalizing m with
  | nil => simp [putAll]
  | cons e rest ih =>
    obtain ⟨k, v⟩ := e
    have hput : put k v m = m ++ [(k, v)] := by
      refine put_of_forall_ne fun e he hek => ?_
      rw [List.map_append, List.nodup_append] at h
      exact h.2.2 e.1 (List.mem_map_of_mem he) k (by simp) hek
    have hrest := ih (m := m ++ [(k, v)]) (by simpa using h)
    have hstep : putAll ((k, v) :: rest) m = putAll rest (put k v m) := rfl
    rw [hstep, hput, hrest]
    simp

/-- Pairs whose keys differ are a map as they stand. -/
theorem ofList_of_nodup {entries : List (κ × ν)} (h : (entries.map Prod.fst).Nodup) :
    ofList entries = entries := by
  rw [ofList, putAll_of_nodup (by simpa using h), List.nil_append]

/-- Where keys differ, the value of a key is the one in its pair. -/
theorem get?_of_mem {key : κ} {value : ν} {m : List (κ × ν)} (h : (m.map Prod.fst).Nodup)
    (hmem : (key, value) ∈ m) : get? key m = some value := by
  induction m with
  | nil => simp at hmem
  | cons e rest ih =>
    obtain ⟨k, v⟩ := e
    rw [List.map_cons, List.nodup_cons] at h
    rcases List.mem_cons.1 hmem with heq | hrest
    · obtain ⟨rfl, rfl⟩ := Prod.mk.inj heq
      simp [get?]
    · have hkey : key ∈ rest.map Prod.fst := List.mem_map_of_mem hrest
      have hk : k ≠ key := fun e => h.1 (e ▸ hkey)
      rw [get?, if_neg hk]
      exact ih h.2 hrest

end Assoc

namespace PositionMap

/-- The number that the next shown line takes after some lines of a patch. -/
def cursorAfter : (next : Nat) → List PatchLine → Nat
  | next, [] => next
  | next, l :: ls =>
    match l with
    | .reset newStart => cursorAfter newStart ls
    | .malformed _ => cursorAfter next ls
    | .inert => cursorAfter next ls
    | .keyed => cursorAfter (next + 1) ls

theorem cursorAfter_append (next : Nat) (ls ms : List PatchLine) :
    cursorAfter next (ls ++ ms) = cursorAfter (cursorAfter next ls) ms := by
  induction ls generalizing next with
  | nil => rfl
  | cons l ls ih => cases l <;> simp [cursorAfter, ih]

/-- A patch is gone through part by part. -/
theorem assignments_append (position next : Nat) (ls ms : List PatchLine) :
    assignments position next (ls ++ ms) =
      assignments position next ls ++
        assignments (position + ls.length) (cursorAfter next ls) ms := by
  induction ls generalizing position next with
  | nil => rfl
  | cons l ls ih =>
    have hlen : position + (ls.length + 1) = position + 1 + ls.length := by omega
    cases l <;> simp [assignments, cursorAfter, ih, hlen]

/-- A pair is assigned exactly where a line is shown: the place of that line, under the number
that is next after the lines before it. -/
theorem mem_assignments {position next line place : Nat} {ls : List PatchLine} :
    (line, place) ∈ assignments position next ls ↔
      ∃ before after, ls = before ++ .keyed :: after ∧ place = position + before.length ∧
        line = cursorAfter next before := by
  induction ls generalizing position next with
  | nil => simp [assignments]
  | cons l ls ih =>
    -- A line that is not shown leaves the pairs of the lines after it, one place later.
    have hskip : ∀ n, l ≠ .keyed → cursorAfter next [l] = n →
        ((line, place) ∈ assignments (position + 1) n ls ↔
          ∃ before after, l :: ls = before ++ .keyed :: after ∧
            place = position + before.length ∧ line = cursorAfter next before) := by
      rintro n hl rfl
      rw [ih]
      constructor
      · rintro ⟨before, after, rfl, rfl, rfl⟩
        refine ⟨l :: before, after, rfl, ?_, ?_⟩
        · simp only [List.length_cons]
          omega
        · rw [← cursorAfter_append]
          rfl
      · rintro ⟨_ | ⟨k, before⟩, after, h, hplace, hline⟩
        · exact absurd (List.cons.inj h).1 hl
        · obtain ⟨rfl, rfl⟩ := List.cons.inj h
          refine ⟨before, after, rfl, ?_, ?_⟩
          · rw [hplace, List.length_cons]
            omega
          · rw [hline, ← cursorAfter_append]
            rfl
    cases l with
    | reset s => exact hskip s (by simp) rfl
    | malformed why => exact hskip next (by simp) rfl
    | inert => exact hskip next (by simp) rfl
    | keyed =>
      rw [assignments, List.mem_cons, ih]
      constructor
      · rintro (h | ⟨before, after, rfl, rfl, rfl⟩)
        · obtain ⟨rfl, rfl⟩ := Prod.mk.inj h
          exact ⟨[], ls, rfl, rfl, rfl⟩
        · refine ⟨.keyed :: before, after, rfl, ?_, rfl⟩
          simp only [List.length_cons]
          omega
      · rintro ⟨_ | ⟨k, before⟩, after, h, hplace, hline⟩
        · exact Or.inl (by rw [hplace, hline]; rfl)
        · obtain ⟨rfl, rfl⟩ := List.cons.inj h
          refine Or.inr ⟨before, after, rfl, ?_, hline⟩
          rw [hplace, List.length_cons]
          omega

theorem le_of_mem_assignments {position next line place : Nat} {ls : List PatchLine}
    (h : (line, place) ∈ assignments position next ls) : position ≤ place := by
  obtain ⟨before, after, -, rfl, -⟩ := mem_assignments.1 h
  exact Nat.le_add_right _ _

/-- Places grow. -/
theorem assignments_places (position next : Nat) (ls : List PatchLine) :
    ((assignments position next ls).map Prod.snd).Pairwise (· < ·) := by
  induction ls generalizing position next with
  | nil => exact List.Pairwise.nil
  | cons l ls ih =>
    cases l with
    | reset s => exact ih (position + 1) s
    | malformed why => exact ih (position + 1) next
    | inert => exact ih (position + 1) next
    | keyed =>
      refine List.pairwise_cons.2 ⟨fun place hplace => ?_, ih (position + 1) (next + 1)⟩
      obtain ⟨⟨line, p⟩, hmem, rfl⟩ := List.mem_map.1 hplace
      exact le_of_mem_assignments hmem

/-! ## Warnings -/

/-- Lines without a malformed header give no warning. -/
theorem warnings_of_forall {ls : List PatchLine} (h : ∀ why, .malformed why ∉ ls)
    (position next : Nat) : warnings position next ls = [] := by
  induction ls generalizing position next with
  | nil => rfl
  | cons l ls ih =>
    have hls : ∀ why, .malformed why ∉ ls := fun why hm => h why (by simp [hm])
    cases l with
    | malformed why => exact absurd (by simp) (h why)
    | reset s => exact ih hls _ _
    | inert => exact ih hls _ _
    | keyed => exact ih hls _ _

end PositionMap

end InlineReview
