import InlineReview.Proofs.Settings.Values
import Mathlib.Data.List.Basic

/-!
# Extensions of source files

The items between the commas of a value are trimmed, those of nothing but blanks are left out and
the others get a dot if they have none.  What is read is always a list of extensions, and every
list of extensions is read back from its items with commas between them.

* `Settings.isExtension_of_mem` — what is read is an extension.
* `Settings.extensionsOf_join` — extensions are read back.
* `Settings.extensionsOf_trim` — blanks around the value do not matter.
-/

namespace InlineReview.Settings

open Text

/-- Is this an extension: a dot and what follows it, without a comma and without blanks at its
ends? -/
def IsExtension (e : String) : Prop :=
  e.toList.head? = some '.' ∧ ',' ∉ e.toList ∧ IsTrimmed e.toList

variable {e : String} {item : List Char}

/-! ## Single items -/

theorem extensionOf?_trimL (item : List Char) : extensionOf? (trimL item) = extensionOf? item := by
  rw [extensionOf?, extensionOf?, trimL_trimL]

/-- An item without commas is read as an extension or left out. -/
theorem isExtension_of_extensionOf? (hcomma : ',' ∉ item) (h : extensionOf? item = some e) :
    IsExtension e := by
  have htrimmed := isTrimmed_trimL item
  have hfree : ',' ∉ trimL item := fun hmem => hcomma (mem_of_mem_trimL hmem)
  unfold extensionOf? at h
  split at h
  · cases h
  · rename_i r hitem
    obtain rfl := Option.some.inj h
    rw [hitem] at htrimmed hfree
    rw [IsExtension, String.toList_ofList]
    exact ⟨rfl, hfree, htrimmed⟩
  · rename_i hne _
    obtain rfl := Option.some.inj h
    obtain ⟨c, r, hitem⟩ := List.exists_cons_of_ne_nil hne
    rw [IsExtension, String.toList_ofList]
    refine ⟨rfl, by simp [hfree], by simp [isBlank], ?_⟩
    have hlast := htrimmed.2
    rw [hitem] at hlast ⊢
    rwa [List.getLast?_cons_cons]

theorem extensionOf?_toList (h : IsExtension e) : extensionOf? e.toList = some e := by
  obtain ⟨hdot, -, htrimmed⟩ := h
  obtain ⟨r, hr⟩ := List.head?_eq_some_iff.1 hdot
  rw [extensionOf?, htrimmed.trimL_eq, hr]
  show some (String.ofList ('.' :: r)) = some e
  rw [← hr, String.ofList_toList]

/-! ## Whole values -/

theorem defaultExtensions_ne_nil : defaultExtensions ≠ [] := by simp [defaultExtensions]

theorem extensionsOf_ne_nil (value : Option String) : extensionsOf value ≠ [] := by
  unfold extensionsOf
  split
  · exact defaultExtensions_ne_nil
  · split
    · exact defaultExtensions_ne_nil
    · dsimp only
      split
      · exact defaultExtensions_ne_nil
      · rename_i hfound
        simpa using hfound

/-- What is read of a value is a list of extensions. -/
theorem isExtension_of_mem (value : Option String) : ∀ e ∈ extensionsOf value, IsExtension e := by
  have hdefault : ∀ e ∈ defaultExtensions, IsExtension e := by
    simp [defaultExtensions, IsExtension, IsTrimmed, isBlank]
  unfold extensionsOf
  split
  · exact hdefault
  · split
    · exact hdefault
    · dsimp only
      split
      · exact hdefault
      · intro e he
        obtain ⟨item, hitem, hread⟩ := List.mem_filterMap.1 he
        exact isExtension_of_extensionOf? (not_mem_of_mem_pieces hitem) hread

/-- A list of extensions is what is read of its items with commas between them. -/
theorem extensionsOf_join {es : List String} (hne : es ≠ []) (h : ∀ e ∈ es, IsExtension e) :
    extensionsOf (some (String.intercalate "," es)) = es := by
  have hjoined : (String.intercalate "," es).toList = joinWith ',' (es.map String.toList) := by
    rw [String.toList_intercalate, joinWith_eq_intercalate]
    rfl
  have hpieces : pieces ',' (String.intercalate "," es).toList = es.map String.toList := by
    rw [hjoined]
    refine pieces_joinWith (by simpa using hne) ?_
    intro item hitem
    obtain ⟨e, he, rfl⟩ := List.mem_map.1 hitem
    exact (h e he).2.1
  have hfound : (es.map String.toList).filterMap extensionOf? = es := by
    rw [List.filterMap_map]
    have hread : ∀ e ∈ es, (extensionOf? ∘ String.toList) e = some e :=
      fun e he => extensionOf?_toList (h e he)
    rw [List.filterMap_congr hread, List.filterMap_some]
  -- the dot of the first extension is no blank
  have hblank : allBlank (String.intercalate "," es) = false := by
    obtain ⟨e, rest, rfl⟩ := List.exists_cons_of_ne_nil hne
    obtain ⟨r, hr⟩ := List.head?_eq_some_iff.1 (h e List.mem_cons_self).1
    have hdot : '.' ∈ (String.intercalate "," (e :: rest)).toList := by
      rw [hjoined, List.map_cons, hr]
      cases rest <;> simp [joinWith]
    rw [← Bool.not_eq_true, allBlank_iff]
    intro hrun
    exact absurd (hrun '.' hdot) (by decide)
  have hsome : es.isEmpty = false := by simpa using hne
  simp only [extensionsOf, hblank, hpieces, hfound, hsome, Bool.false_eq_true, if_false]

theorem extensionsOf_blank {s : String} (h : IsBlankRun s.toList) :
    extensionsOf (some s) = defaultExtensions := by
  simp [extensionsOf, allBlank_iff.2 h]

/-- Blanks around a value do not matter. -/
theorem extensionsOf_trim (s : String) : extensionsOf (some (trim s)) = extensionsOf (some s) := by
  have hblank : allBlank (trim s) = allBlank s := by
    rw [Bool.eq_iff_iff, allBlank_iff, allBlank_iff, ← trimL_eq_nil_iff, ← trimL_eq_nil_iff, trim,
      String.toList_ofList, trimL_trimL]
  have hread : ∀ ws : List (List Char), ws.filterMap extensionOf? =
      (ws.map trimL).filterMap extensionOf? := by
    intro ws
    rw [List.filterMap_map]
    exact congrArg (ws.filterMap ·) (funext fun item => (extensionOf?_trimL item).symm)
  have hfound : (pieces ',' (trim s).toList).filterMap extensionOf? =
      (pieces ',' s.toList).filterMap extensionOf? := by
    rw [hread, hread (pieces ',' s.toList), map_trimL_pieces (by decide) s.toList, trim,
      String.toList_ofList]
  simp only [extensionsOf, hblank, hfound]

end InlineReview.Settings
