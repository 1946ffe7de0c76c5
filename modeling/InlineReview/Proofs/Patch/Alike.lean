import InlineReview.Proofs.Patch.Numbering
import InlineReview.Proofs.Text.Returns
import InlineReview.Proofs.Text.Words

/-!
# What the map of a patch depends on

Two lines are alike if both are headers with one first line of the new file, or neither counts, or
both are shown.  The map of a patch depends on no more than that: patches whose lines are alike one
by one have one map, whatever else stands in their lines.  A carriage return before a newline makes
no difference at all, not even to what is noted on the way.

* `PatchLine.Alike` — lines that count alike.
* `PatchLine.assignments_eq_of_alike` — patches with alike lines assign the same.
* `PatchLine.ofLine_append_return` — a carriage return at the end of a line leaves its class.
* `PositionMap.ofPatch_alike` — the maps of patches with alike lines, and of patches with carriage
  returns.
-/

namespace InlineReview

open Text

namespace PatchLine

/-! ## Lines that count alike -/

/-- Is a line a removed line, a marker or a malformed header? -/
def IsInert (line : List Char) : Prop :=
  (∃ c ∈ line.head?, c = '-' ∨ c = '\x5c') ∨ IsMalformed line

/-- Do two lines of patches count alike? -/
inductive Alike (line other : List Char) : Prop
  | headers {header otherHeader : HunkHeader}
      (opens : startsWith HunkHeader.marker line = true)
      (reads : HunkHeader.readL line = .ok (.ok header))
      (otherOpens : startsWith HunkHeader.marker other = true)
      (otherReads : HunkHeader.readL other = .ok (.ok otherHeader))
      (newStart : header.newStart = otherHeader.newStart) : Alike line other
  | inert (inert : IsInert line) (otherInert : IsInert other) : Alike line other
  | shown (shown : IsShown line) (otherShown : IsShown other) : Alike line other

/-- How a classified line counts: a malformed header as if it were removed. -/
def weight : PatchLine → PatchLine
  | .malformed _ => .inert
  | .reset newStart => .reset newStart
  | .inert => .inert
  | .keyed => .keyed

theorem assignments_map_weight (position next : Nat) (ps : List PatchLine) :
    PositionMap.assignments position next (ps.map weight) =
      PositionMap.assignments position next ps := by
  induction ps generalizing position next with
  | nil => rfl
  | cons p ps ih => cases p <;> simp [weight, PositionMap.assignments, ih]

section Line

variable {line other : List Char} {p q : PatchLine}

theorem weight_of_header {header : HunkHeader} (h : ofLine line = .ok p)
    (hmark : startsWith HunkHeader.marker line = true)
    (hread : HunkHeader.readL line = .ok (.ok header)) : weight p = .reset header.newStart := by
  have hclass : ofLine line = .ok (.reset header.newStart) := by
    unfold ofLine
    rw [if_pos hmark, hread]
    rfl
  obtain rfl : p = .reset header.newStart := Except.ok.inj (h.symm.trans hclass)
  rfl

theorem weight_of_isInert (h : ofLine line = .ok p) (hinert : IsInert line) :
    weight p = .inert := by
  rcases hinert with ⟨c, hc, hhidden⟩ | hmalformed
  · obtain ⟨tail, rfl⟩ := List.head?_eq_some_iff.1 hc
    have hclass : ofLine (c :: tail) = .ok .inert := by
      rcases hhidden with rfl | rfl <;> simp [ofLine, startsWith, dropLead?, HunkHeader.marker]
    obtain rfl : p = .inert := Except.ok.inj (h.symm.trans hclass)
    rfl
  · obtain ⟨why, rfl⟩ := (isMalformed_iff h).1 hmalformed
    rfl

/-- Lines that count alike have one weight. -/
theorem Alike.weight_eq (h : Alike line other) (hp : ofLine line = .ok p)
    (hq : ofLine other = .ok q) : weight p = weight q := by
  cases h with
  | headers opens reads otherOpens otherReads newStart =>
    rw [weight_of_header hp opens reads, weight_of_header hq otherOpens otherReads, newStart]
  | inert inert otherInert => rw [weight_of_isInert hp inert, weight_of_isInert hq otherInert]
  | shown shown otherShown => rw [(isShown_iff hp).1 shown, (isShown_iff hq).1 otherShown]

end Line

/-- Patches with alike lines assign the same places to the same numbers. -/
theorem assignments_eq_of_alike {lines others : List (List Char)} {ps qs : List PatchLine}
    (h : List.Forall₂ Alike lines others) (hps : lines.map ofLine = ps.map .ok)
    (hqs : others.map ofLine = qs.map .ok) (position next : Nat) :
    PositionMap.assignments position next ps = PositionMap.assignments position next qs := by
  have hweights : ps.map weight = qs.map weight := by
    induction h generalizing ps qs with
    | nil =>
      obtain rfl : ps = [] := by simpa using hps.symm
      obtain rfl : qs = [] := by simpa using hqs.symm
      rfl
    | cons halike hrest ih =>
      obtain ⟨p, ps, rfl, hp, hps⟩ := List.map_eq_cons_iff.1 hps.symm
      obtain ⟨q, qs, rfl, hq, hqs⟩ := List.map_eq_cons_iff.1 hqs.symm
      rw [List.map_cons, List.map_cons, halike.weight_eq hp.symm hq.symm, ih hps.symm hqs.symm]
  rw [← assignments_map_weight, hweights, assignments_map_weight]

end PatchLine

/-! ## Carriage returns -/

namespace HunkHeader

theorem splitMarks_append_return (line : List Char) :
    splitMarks (line ++ ['\r']) =
      (splitMarks line).map fun parts => (parts.1, parts.2 ++ ['\r']) := by
  have hmarker : '\r' ∉ marker := by decide
  unfold splitMarks
  rw [dropLead?_append_cons hmarker line []]
  cases dropLead? marker line with
  | none => rfl
  | some rest =>
    have hclosing : breakOn? marker (rest ++ ['\r']) =
        (breakOn? marker rest).map fun parts => (parts.1, parts.2 ++ ['\r']) :=
      breakOn?_append_singleton hmarker rest
    rw [Option.map_some]
    simp only [hclosing]
    cases breakOn? marker rest <;> rfl

/-- A carriage return at the end of a line is trimmed from the heading. -/
theorem readL_append_return (line : List Char) : readL (line ++ ['\r']) = readL line := by
  unfold readL
  rw [splitMarks_append_return]
  cases splitMarks line with
  | error why => rfl
  | ok parts =>
    have htrim : trimL (parts.2 ++ ['\r']) = trimL parts.2 := trimL_append_blank (by decide) parts.2
    simp only [Except.map, htrim]

end HunkHeader

namespace PatchLine

/-- A carriage return at the end of a line leaves its class. -/
theorem ofLine_append_return (line : List Char) : ofLine (line ++ ['\r']) = ofLine line := by
  have hmark : startsWith HunkHeader.marker (line ++ ['\r']) =
      startsWith HunkHeader.marker line := by
    rw [startsWith, startsWith, dropLead?_append_cons (by decide) line [], Option.isSome_map]
  unfold ofLine
  rw [hmark, HunkHeader.readL_append_return]
  cases line with
  | nil => rfl
  | cons c line =>
    by_cases hremoved : c = '-'
    · rw [hremoved]
      rfl
    · by_cases hmarker : c = '\x5c'
      · rw [hmarker]
        rfl
      · simp [hremoved, hmarker]

theorem splitL_of_returnsPut {s t : List Char} (h : ReturnsPut s t) :
    List.Forall₂ IsReturned (splitL s) (splitL t) := by
  have hlines : List.Forall₂ IsReturned (pieces '\n' s) (pieces '\n' t) := h.lines
  unfold splitL
  rw [h.getLast?]
  split
  · rw [List.dropLast_eq_take, List.dropLast_eq_take, ← hlines.length_eq]
    exact List.forall₂_take _ hlines
  · exact hlines

theorem ofLines_congr {lines others : List (List Char)} (h : lines.map ofLine = others.map ofLine) :
    ofLines lines = ofLines others := by
  induction lines generalizing others with
  | nil =>
    obtain rfl : others = [] := by simpa using h.symm
    rfl
  | cons line rest ih =>
    obtain ⟨other, others, rfl, hline, hrest⟩ := List.map_eq_cons_iff.1 h.symm
    rw [ofLines, ofLines, hline, ih hrest.symm]

/-- Lines with carriage returns at their ends are classified as they would be without. -/
theorem ofLines_of_returned {lines others : List (List Char)}
    (h : List.Forall₂ IsReturned lines others) : ofLines others = ofLines lines := by
  apply ofLines_congr
  induction h with
  | nil => rfl
  | cons hreturned _ ih =>
    rw [List.map_cons, List.map_cons, ih]
    rcases hreturned with rfl | rfl
    · rfl
    · rw [ofLine_append_return]

end PatchLine

namespace PositionMap

/-- Carriage returns before newlines make no difference. -/
theorem ofPatch_of_returnsPut {patch other : String} (h : ReturnsPut patch.toList other.toList) :
    ofPatch other = ofPatch patch := by
  have hempty : other.isEmpty = patch.isEmpty := by
    rw [Bool.eq_iff_iff, String.isEmpty_iff, String.isEmpty_iff, ← String.toList_eq_nil_iff,
      h.eq_nil_iff, String.toList_eq_nil_iff]
  unfold ofPatch
  rw [hempty, PatchLine.ofLines_of_returned (PatchLine.splitL_of_returnsPut h)]

/-! ## Two patches -/

open PatchLine (Alike IsAnswered physicalLines)

/-- The classes of patches with alike lines have one map. -/
theorem ofLines_eq_of_alike {lines others : List (List Char)} {ps qs : List PatchLine}
    (h : List.Forall₂ Alike lines others) (hps : PatchLine.ofLines lines = (ps, none))
    (hqs : PatchLine.ofLines others = (qs, none)) : ofLines ps = ofLines qs := by
  rw [ofLines, ofLines, PatchLine.assignments_eq_of_alike h (PatchLine.ofLines_eq_iff.1 hps)
    (PatchLine.ofLines_eq_iff.1 hqs)]

/-- Patches with answers whose lines are alike one by one have one map, exactly if both are
reportable.  Carriage returns that are put before newlines make no difference to any patch. -/
theorem ofPatch_alike (patch other : String) :
    (IsAnswered (physicalLines patch) → IsAnswered (physicalLines other) →
      List.Forall₂ Alike (physicalLines patch) (physicalLines other) →
      ((∃ map, (ofPatch patch).outcome.1 = .ok map ∧ (ofPatch other).outcome.1 = .ok map) ↔
        IsReportable (physicalLines patch) ∧ IsReportable (physicalLines other))) ∧
    (ReturnsPut patch.toList other.toList → ofPatch other = ofPatch patch) := by
  refine ⟨fun hanswered hother halike => ?_, ofPatch_of_returnsPut⟩
  obtain ⟨ps, hps⟩ := PatchLine.isAnswered_iff.1 hanswered
  obtain ⟨qs, hqs⟩ := PatchLine.isAnswered_iff.1 hother
  constructor
  · rintro ⟨map, hmap, hmap'⟩
    exact ⟨isReportable_of_outcome hmap, isReportable_of_outcome hmap'⟩
  · rintro ⟨hreportable, hreportable'⟩
    refine ⟨ofLines ps, (outcome_ofPatch_iff hps).2 ⟨rfl, hreportable⟩, ?_⟩
    exact (outcome_ofPatch_iff hqs).2 ⟨ofLines_eq_of_alike halike hps hqs, hreportable'⟩

/-- Lines that count as those of `overlapping` do. -/
def retouched : List (List Char) :=
  ["+y".toList, "@@ -7,3 +1 @@ f".toList, "".toList, "@@ x".toList, "\\ No newline".toList,
    "@@ -0,0 +1,9 @@\r".toList, "\tc".toList]

/-- The patch of these lines. -/
def retouchedPatch : String := String.ofList (unlinesL retouched)

theorem alike_overlapping :
    List.Forall₂ Alike (physicalLines overlappingPatch) (physicalLines retouchedPatch) := by
  have hlines : physicalLines overlappingPatch = overlapping := by decide +kernel
  have hothers : physicalLines retouchedPatch = retouched := by decide +kernel
  have hheader : HunkHeader.readL "@@ -1 +1,2 @@".toList = .ok (.ok ⟨1, 1, 1, 2, ""⟩) := by
    decide +kernel
  have hother : HunkHeader.readL "@@ -7,3 +1 @@ f".toList = .ok (.ok ⟨7, 3, 1, 1, "f"⟩) := by
    decide +kernel
  have hheader' : HunkHeader.readL "@@ -1 +1 @@".toList = .ok (.ok ⟨1, 1, 1, 1, ""⟩) := by
    decide +kernel
  have hother' : HunkHeader.readL "@@ -0,0 +1,9 @@\r".toList = .ok (.ok ⟨0, 0, 1, 9, ""⟩) := by
    decide +kernel
  rw [hlines, hothers]
  exact .cons (.shown (PatchLine.isShown_cons_iff.2 (by decide))
      (PatchLine.isShown_cons_iff.2 (by decide))) <|
    .cons (.headers (by decide) hheader (by decide) hother rfl) <|
    .cons (.shown (PatchLine.isShown_cons_iff.2 (by decide)) PatchLine.isShown_nil) <|
    .cons (.inert (.inl ⟨'-', rfl, .inl rfl⟩) (.inr isMalformed_unclosed)) <|
    .cons (.inert (.inr isMalformed_unclosed) (.inl ⟨'\x5c', rfl, .inr rfl⟩)) <|
    .cons (.headers (by decide) hheader' (by decide) hother' rfl) <|
    .cons (.shown (PatchLine.isShown_cons_iff.2 (by decide))
      (PatchLine.isShown_cons_iff.2 (by decide))) .nil

/-- Other code, other headings and another malformed header, and carriage returns at the ends of two
lines. -/
theorem ofPatch_retouched :
    (IsAnswered (physicalLines overlappingPatch) ∧ IsAnswered (physicalLines retouchedPatch) ∧
      List.Forall₂ Alike (physicalLines overlappingPatch) (physicalLines retouchedPatch) ∧
      ∃ map, (ofPatch overlappingPatch).outcome.1 = .ok map ∧
        (ofPatch retouchedPatch).outcome.1 = .ok map) ∧
    ofPatch (String.ofList ("@@ -1 +1 @@".toList ++ '\r' :: '\n' :: "@@ x\r\n".toList)) =
      ofPatch (String.ofList ("@@ -1 +1 @@".toList ++ '\n' :: "@@ x\n".toList)) := by
  have hanswered : IsAnswered (physicalLines retouchedPatch) := by
    have hlines : physicalLines retouchedPatch = retouched := by decide +kernel
    rw [hlines]
    exact PatchLine.isAnswered_of_forall_isOk (by decide +kernel)
  have hmap : (ofPatch overlappingPatch).outcome.1 = .ok [(1, 7)] := by decide +kernel
  have hmap' : (ofPatch retouchedPatch).outcome.1 = .ok [(1, 7)] := by decide +kernel
  have hboth := ((ofPatch_alike overlappingPatch retouchedPatch).1 isAnswered_overlapping hanswered
    alike_overlapping).2
    ⟨isReportable_of_outcome hmap, isReportable_of_outcome hmap'⟩
  refine ⟨⟨isAnswered_overlapping, hanswered, alike_overlapping, hboth⟩,
    (ofPatch_alike _ _).2 ?_⟩
  rw [String.toList_ofList, String.toList_ofList]
  have hlast : ReturnsPut "@@ x\n".toList "@@ x\r\n".toList :=
    (ReturnsPut.put .nil).append_left "@@ x".toList
  exact (ReturnsPut.put hlast).append_left "@@ -1 +1 @@".toList

/-- A removed line. -/
def removed : List Char := "-x".toList

theorem physicalLines_removed :
    physicalLines (hunkPatch lastHeader removed) = hunkLines lastHeader removed :=
  physicalLines_hunkPatch (by decide) (by decide) (by decide)

theorem isAnswered_removed : IsAnswered (physicalLines (hunkPatch lastHeader removed)) := by
  rw [physicalLines_removed]
  exact isAnswered_hunkLines isPrintable_lastHeader
    ⟨_, PatchLine.readL_of_not_startsWith (by decide)⟩

theorem alike_removed : List.Forall₂ Alike (physicalLines (hunkPatch lastHeader unclosed))
    (physicalLines (hunkPatch lastHeader removed)) := by
  have hread : HunkHeader.readL (lastHeader.printed false false).toList = .ok (.ok lastHeader) :=
    HunkHeader.read_printed isPrintable_lastHeader
  have hmark := lastHeader.startsWith_printed false false
  rw [physicalLines_unclosed, physicalLines_removed]
  have hshown : ∀ (c : Char) (line : List Char), startsWith HunkHeader.marker (c :: line) = false →
      c ≠ '-' ∧ c ≠ '\x5c' → Alike (c :: line) (c :: line) := fun c line hplain hc =>
    .shown (PatchLine.isShown_cons_iff.2 ⟨hplain, hc⟩) (PatchLine.isShown_cons_iff.2 ⟨hplain, hc⟩)
  exact .cons (hshown 'z' [] (by decide) (by decide)) <|
    .cons (.headers hmark hread hmark hread rfl) <|
    .cons (hshown ' ' ['a'] (by decide) (by decide)) <|
    .cons (hshown ' ' ['b'] (by decide) (by decide)) <|
    .cons (.inert (.inr isMalformed_unclosed) (.inl ⟨'-', rfl, .inl rfl⟩)) .nil

/-- Where no header is malformed, nothing has to be written. -/
theorem exists_map_removed :
    ∃ map, (ofPatch (hunkPatch lastHeader removed)).outcome.1 = .ok map := by
  obtain ⟨ps, hps⟩ := PatchLine.isAnswered_iff.1 isAnswered_removed
  have hread : HunkHeader.readL (lastHeader.printed false false).toList = .ok (.ok lastHeader) :=
    HunkHeader.read_printed isPrintable_lastHeader
  have hnone : ∀ line ∈ hunkLines lastHeader removed, ¬ PatchLine.IsMalformed line := by
    simp only [hunkLines, List.forall_mem_cons, List.not_mem_nil, false_imp_iff, implies_true,
      and_true]
    exact ⟨fun h => absurd h.1 (by decide), fun h => h.2 _ hread,
      fun h => absurd h.1 (by decide), fun h => absurd h.1 (by decide),
      fun h => absurd h.1 (by decide)⟩
  refine ⟨_, (outcome_ofPatch_iff hps).2 ⟨rfl, ?_⟩⟩
  rw [physicalLines_removed]
  intro before line after number hsplit hmalformed _
  exact absurd hmalformed (hnone line (by rw [hsplit]; simp))

/-- A removed line in the place of a malformed header: the patches have alike lines, and only one of
them has a map. -/
theorem ofPatch_unclosed_removed :
    IsAnswered (physicalLines (hunkPatch lastHeader unclosed)) ∧
    IsAnswered (physicalLines (hunkPatch lastHeader removed)) ∧
    List.Forall₂ Alike (physicalLines (hunkPatch lastHeader unclosed))
      (physicalLines (hunkPatch lastHeader removed)) ∧
    (∃ map, (ofPatch (hunkPatch lastHeader removed)).outcome.1 = .ok map) ∧
    ¬ ∃ map, (ofPatch (hunkPatch lastHeader unclosed)).outcome.1 = .ok map :=
  ⟨isAnswered_unclosed, isAnswered_removed, alike_removed, exists_map_removed,
    not_exists_map_unclosed⟩

end PositionMap

end InlineReview
