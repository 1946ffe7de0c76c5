import InlineReview.Proofs.Patch.Assignments
import InlineReview.Proofs.Patch.HeaderText
import Mathlib.Data.List.Induction

/-!
# The cursor of a patch

A patch is gone through line by line with a cursor, the number of the last line of the new file
that was shown.  A header sets the cursor, a shown line moves it on by one, and every other line,
a malformed header among them, takes a place in the patch and leaves the cursor as it was.

* `PatchLine.cursor` — the cursor after some physical lines.
* `PatchLine.ofLines_eq_iff` — which patches can be classified.
* `PositionMap.position?_ofLines_iff` — the place of a number is the last place at which the
  cursor has it.
* `PositionMap.outcome_ofPatch_eq_ok_iff` — which patches have a map.
* `PositionMap.ofPatch_map_iff` — which lines have an answer, and which patches the map of their
  cursor.
-/

namespace InlineReview

open Text

/-! ## Physical lines -/

namespace PatchLine

/-- The physical lines of a patch, of which an empty one has none. -/
def physicalLines (patch : String) : List (List Char) :=
  if patch.isEmpty then [] else splitL patch.toList

/-- Is a line opened as a header without being one? -/
def IsMalformed (line : List Char) : Prop :=
  startsWith HunkHeader.marker line = true ∧
    ∀ header, HunkHeader.readL line ≠ .ok (.ok header)

/-- Is a line neither opened as a header, nor a removed line, nor a marker? -/
def IsShown (line : List Char) : Prop :=
  startsWith HunkHeader.marker line = false ∧ ∀ c ∈ line.head?, c ≠ '-' ∧ c ≠ '\x5c'

instance (line : List Char) : Decidable (IsShown line) := inferInstanceAs (Decidable (_ ∧ _))

/-- The cursor after one more line. -/
def numberAfter (number : Int) (line : List Char) : Int :=
  match HunkHeader.readL line with
  | .ok (.ok header) => (header.newStart : Int) - 1
  | _ => if IsShown line then number + 1 else number

/-- The cursor after some lines; before the first header the lines are counted from one. -/
def cursor (lines : List (List Char)) : Int := lines.foldl numberAfter 0

/-- Is the line of the new file with a number shown at a place of the patch? -/
def ShowsAt (lines : List (List Char)) (number : Int) (place : Nat) : Prop :=
  ∃ before line after, lines = before ++ line :: after ∧ IsShown line ∧
    place = before.length + 1 ∧ cursor (before ++ [line]) = number

/-! ## Classified lines -/

theorem readL_of_not_startsWith {line : List Char}
    (h : startsWith HunkHeader.marker line = false) :
    HunkHeader.readL line = .ok (.error .missingOpening) := by
  have hlead : dropLead? HunkHeader.marker line = none := by
    simpa [startsWith] using h
  simp only [HunkHeader.readL, HunkHeader.splitMarks, hlead]

/-- What is opened as a header is not shown. -/
theorem not_isShown_of_startsWith {line : List Char}
    (h : startsWith HunkHeader.marker line = true) : ¬ IsShown line :=
  fun hshown => Bool.false_ne_true (hshown.1.symm.trans h)

/-- The ways in which a line comes to its class. -/
inductive HasClass (line : List Char) : PatchLine → Prop
  | header {header : HunkHeader} (opens : startsWith HunkHeader.marker line = true)
      (reads : HunkHeader.readL line = .ok (.ok header)) : HasClass line (.reset header.newStart)
  | malformed {why : HunkHeader.Malformed} (opens : startsWith HunkHeader.marker line = true)
      (reads : HunkHeader.readL line = .ok (.error why)) : HasClass line (.malformed why)
  | shown (shown : IsShown line) : HasClass line .keyed
  | hidden (opensNot : startsWith HunkHeader.marker line = false) (hidden : ¬ IsShown line) :
      HasClass line .inert

section Line

variable {line : List Char} {p : PatchLine}

theorem hasClass_of_ofLine (h : ofLine line = .ok p) : HasClass line p := by
  by_cases hmark : startsWith HunkHeader.marker line = true
  · unfold ofLine at h
    rw [if_pos hmark] at h
    cases hread : HunkHeader.readL line with
    | error fault =>
      rw [hread] at h
      cases h
    | ok answer =>
      rw [hread] at h
      cases answer with
      | ok header =>
        cases h
        exact .header hmark hread
      | error why =>
        cases h
        exact .malformed hmark hread
  · have hfalse : startsWith HunkHeader.marker line = false := by simpa using hmark
    unfold ofLine at h
    rw [if_neg hmark] at h
    split at h
    · cases h
      exact .hidden hfalse fun hs => (hs.2 '-' rfl).1 rfl
    · cases h
      exact .hidden hfalse fun hs => (hs.2 '\x5c' rfl).2 rfl
    · rename_i hminus hbackslash
      cases h
      refine .shown ⟨hfalse, fun c hc => ?_⟩
      obtain ⟨tail, rfl⟩ := List.head?_eq_some_iff.1 hc
      exact ⟨fun hc => hminus tail (by rw [hc]), fun hc => hbackslash tail (by rw [hc])⟩

/-- A line is shown exactly if its class is that of the shown lines. -/
theorem isShown_iff (h : ofLine line = .ok p) : IsShown line ↔ p = .keyed := by
  cases hasClass_of_ofLine h with
  | header opens reads => simp [not_isShown_of_startsWith opens]
  | malformed opens reads => simp [not_isShown_of_startsWith opens]
  | shown shown => simp [shown]
  | hidden opensNot hidden => simp [hidden]

/-- A line is malformed exactly if its class is that of a malformed header. -/
theorem isMalformed_iff (h : ofLine line = .ok p) :
    IsMalformed line ↔ ∃ why, p = .malformed why := by
  cases hasClass_of_ofLine h with
  | header opens reads => simp [IsMalformed, opens, reads]
  | malformed opens reads => simp [IsMalformed, opens, reads]
  | shown shown => simp [IsMalformed, shown.1]
  | hidden opensNot hidden => simp [IsMalformed, opensNot]

/-- What a line does to the cursor is what its class does to the next number. -/
theorem numberAfter_eq (h : ofLine line = .ok p) (next : Nat) :
    numberAfter ((next : Int) - 1) line = (PositionMap.cursorAfter next [p] : Int) - 1 := by
  cases hasClass_of_ofLine h with
  | header opens reads =>
    simp only [numberAfter, reads]
    rfl
  | malformed opens reads =>
    simp only [numberAfter, reads, if_neg (not_isShown_of_startsWith opens)]
    rfl
  | shown shown =>
    simp only [numberAfter, readL_of_not_startsWith shown.1, if_pos shown,
      PositionMap.cursorAfter]
    push_cast
    omega
  | hidden opensNot hidden =>
    simp only [numberAfter, readL_of_not_startsWith opensNot, if_neg hidden]
    rfl

/-- A line has a class exactly if it is not unreadable. -/
theorem exists_ofLine_iff : (∃ p, ofLine line = .ok p) ↔ ¬ HunkHeader.IsUnreadable line := by
  rw [← HunkHeader.exists_readL_iff]
  by_cases hmark : startsWith HunkHeader.marker line = true
  · unfold ofLine
    rw [if_pos hmark]
    cases HunkHeader.readL line <;> simp [Except.map]
  · have hfalse : startsWith HunkHeader.marker line = false := by simpa using hmark
    refine ⟨fun _ => ⟨_, readL_of_not_startsWith hfalse⟩, fun _ => ?_⟩
    unfold ofLine
    rw [if_neg hmark]
    split <;> exact ⟨_, rfl⟩

end Line

/-! ## Classified patches -/

/-- Lines are classified to the end exactly if each has a class. -/
theorem ofLines_eq_iff {lines : List (List Char)} {ps : List PatchLine} :
    ofLines lines = (ps, none) ↔ lines.map ofLine = ps.map .ok := by
  induction lines generalizing ps with
  | nil => cases ps <;> simp [ofLines]
  | cons line rest ih =>
    cases hline : ofLine line with
    | error fault =>
      constructor
      · intro h
        simp [ofLines, hline] at h
      · intro h
        cases ps <;> simp [hline] at h
    | ok p =>
      have hsplit : ofLines (line :: rest) = (p :: (ofLines rest).1, (ofLines rest).2) := by
        rw [ofLines, hline]
      rw [hsplit]
      cases ps with
      | nil => simp
      | cons q qs =>
        have hrest : ofLines rest = (qs, none) ↔ rest.map ofLine = qs.map .ok := ih
        rw [Prod.ext_iff] at hrest
        simp only [Prod.mk.injEq, List.cons.injEq, List.map_cons, hline, Except.ok.injEq, ← hrest,
          and_assoc]

theorem exists_ofLines_iff {lines : List (List Char)} :
    (∃ ps, ofLines lines = (ps, none)) ↔ ∀ line ∈ lines, ¬ HunkHeader.IsUnreadable line := by
  simp only [ofLines_eq_iff, ← exists_ofLine_iff]
  induction lines with
  | nil => exact ⟨fun _ => by simp, fun _ => ⟨[], rfl⟩⟩
  | cons line rest ih =>
    rw [List.forall_mem_cons, ← ih]
    constructor
    · rintro ⟨ps, h⟩
      obtain ⟨p, qs, rfl, hp, hqs⟩ := List.map_eq_cons_iff.1 h.symm
      exact ⟨⟨p, hp.symm⟩, qs, hqs.symm⟩
    · rintro ⟨⟨p, hp⟩, qs, hqs⟩
      exact ⟨p :: qs, by rw [List.map_cons, List.map_cons, hp, hqs]⟩

/-- The cursor comes one before the next number. -/
theorem cursor_eq {lines : List (List Char)} {ps : List PatchLine}
    (h : lines.map ofLine = ps.map .ok) :
    cursor lines = (PositionMap.cursorAfter 1 ps : Int) - 1 := by
  have hfold : ∀ next : Nat, lines.foldl numberAfter ((next : Int) - 1) =
      (PositionMap.cursorAfter next ps : Int) - 1 := by
    induction lines generalizing ps with
    | nil =>
      intro next
      cases ps with
      | nil => rfl
      | cons p ps => cases h
    | cons line rest ih =>
      intro next
      obtain ⟨p, qs, rfl, hp, hqs⟩ := List.map_eq_cons_iff.1 h.symm
      have hstep := PositionMap.cursorAfter_append next [p] qs
      rw [List.foldl_cons, numberAfter_eq hp.symm, ih hqs.symm, ← hstep, List.singleton_append]
  exact hfold 1

/-- With a shown line the cursor comes to the next number. -/
theorem cursor_append_of_keyed {before : List (List Char)} {front : List PatchLine}
    {line : List Char} (hbefore : before.map ofLine = front.map .ok)
    (hline : ofLine line = .ok .keyed) :
    cursor (before ++ [line]) = PositionMap.cursorAfter 1 front := by
  have hboth : (before ++ [line]).map ofLine = (front ++ [PatchLine.keyed]).map .ok := by
    simp [hbefore, hline]
  rw [cursor_eq hboth, PositionMap.cursorAfter_append]
  simp only [PositionMap.cursorAfter]
  push_cast
  omega

/-- The cursor reaches a number with a shown line exactly where that pair is assigned. -/
theorem showsAt_iff {lines : List (List Char)} {ps : List PatchLine}
    (h : lines.map ofLine = ps.map .ok) {number : Int} {place : Nat} :
    ShowsAt lines number place ↔
      ∃ line : Nat, number = line ∧ (line, place) ∈ PositionMap.assignments 1 1 ps := by
  simp only [PositionMap.mem_assignments]
  constructor
  · rintro ⟨before, line, after, rfl, hshown, rfl, rfl⟩
    rw [List.map_append, List.map_cons] at h
    obtain ⟨front, back, rfl, hfront, hback⟩ := List.map_eq_append_iff.1 h.symm
    obtain ⟨p, rest, rfl, hp, hrest⟩ := List.map_eq_cons_iff.1 hback
    obtain rfl : p = .keyed := (isShown_iff hp.symm).1 hshown
    have hlength : before.length = front.length := by
      simpa using congrArg List.length hfront.symm
    refine ⟨PositionMap.cursorAfter 1 front, ?_, front, rest, rfl, ?_, rfl⟩
    · exact cursor_append_of_keyed hfront.symm hp.symm
    · rw [hlength]
      omega
  · rintro ⟨line, rfl, front, rest, rfl, rfl, rfl⟩
    rw [List.map_append, List.map_cons] at h
    obtain ⟨before, back, rfl, hbefore, hback⟩ := List.map_eq_append_iff.1 h
    obtain ⟨l, after, rfl, hl, hafter⟩ := List.map_eq_cons_iff.1 hback
    have hlength : before.length = front.length := by
      simpa using congrArg List.length hbefore
    refine ⟨before, l, after, rfl, (isShown_iff hl).2 rfl, ?_, ?_⟩
    · rw [hlength]
      omega
    · exact cursor_append_of_keyed hbefore hl

end PatchLine

/-! ## The place of a number -/

/-- Where values grow, the value of a key is the greatest one that is given to it. -/
theorem Assoc.get?_ofList_iff {κ : Type} [DecidableEq κ] {entries : List (κ × Nat)}
    (h : (entries.map Prod.snd).Pairwise (· < ·)) {key : κ} {value : Nat} :
    Assoc.get? key (Assoc.ofList entries) = some value ↔
      (key, value) ∈ entries ∧ ∀ v, (key, v) ∈ entries → v ≤ value := by
  induction entries using List.reverseRecOn with
  | nil => simp [Assoc.ofList, Assoc.putAll, Assoc.get?]
  | append_singleton es e ih =>
    obtain ⟨k, v⟩ := e
    rw [List.map_append, List.pairwise_append] at h
    obtain ⟨hpairs, -, hlast⟩ := h
    have hbelow : ∀ u w, (u, w) ∈ es → w < v := fun u w hw =>
      hlast w (List.mem_map_of_mem hw) v (by simp)
    have hput : Assoc.ofList (es ++ [(k, v)]) = Assoc.put k v (Assoc.ofList es) := by
      simp [Assoc.ofList, Assoc.putAll]
    rw [hput, Assoc.get?_put]
    by_cases hk : k = key
    · subst hk
      rw [if_pos rfl]
      constructor
      · intro hv
        obtain rfl := Option.some.inj hv
        refine ⟨by simp, fun w hw => ?_⟩
        rcases List.mem_append.1 hw with hw | hw
        · exact Nat.le_of_lt (hbelow k w hw)
        · exact Nat.le_of_eq (Prod.mk.inj (List.mem_singleton.1 hw)).2
      · rintro ⟨hmem, hgreatest⟩
        have hle : v ≤ value := hgreatest v (by simp)
        rcases List.mem_append.1 hmem with hmem | hmem
        · exact absurd (hbelow k value hmem) (Nat.not_lt.2 hle)
        · rw [(Prod.mk.inj (List.mem_singleton.1 hmem)).2]
    · have hmem : ∀ w, (key, w) ∈ es ++ [(k, v)] ↔ (key, w) ∈ es := fun w => by
        simp [Ne.symm hk]
      rw [if_neg hk, ih hpairs]
      simp only [hmem]

namespace PositionMap

/-- The place of a number is the last place at which a line with that number is shown. -/
theorem position?_ofLines_iff {lines : List (List Char)} {ps : List PatchLine}
    (h : lines.map PatchLine.ofLine = ps.map .ok) {number : Int} {place : Nat} :
    position? (ofLines ps) number = some place ↔ PatchLine.ShowsAt lines number place ∧
      ∀ p, PatchLine.ShowsAt lines number p → p ≤ place := by
  simp only [PatchLine.showsAt_iff h]
  by_cases hneg : number < 0
  · have hno : ¬ ∃ line : Nat, number = line ∧ (line, place) ∈ assignments 1 1 ps := by
      rintro ⟨line, rfl, -⟩
      omega
    rw [position?, if_pos hneg]
    simp [hno]
  · have hnat : ∀ p, (∃ line : Nat, number = line ∧ (line, p) ∈ assignments 1 1 ps) ↔
        (number.toNat, p) ∈ assignments 1 1 ps := fun p => by
      constructor
      · rintro ⟨line, rfl, hmem⟩
        exact hmem
      · exact fun hmem => ⟨number.toNat, by omega, hmem⟩
    rw [position?, if_neg hneg, ofLines, Assoc.get?_ofList_iff (assignments_places 1 1 ps)]
    simp only [hnat]

/-! ## Warnings -/

/-- Can a number be written with the digits that a numeral may have? -/
def IsWritable (n : Int) : Prop := (Numeral.digits n.natAbs).length ≤ Numeral.digitLimit

instance (n : Int) : Decidable (IsWritable n) := inferInstanceAs (Decidable (_ ≤ _))

theorem exists_text_iff {w : Warning} : (∃ text, w.text = .ok text) ↔ IsWritable w.cursor := by
  unfold Warning.text Numeral.write IsWritable
  split
  · rename_i hlimit
    simp only [Except.map, reduceCtorEq, exists_false, false_iff]
    exact Nat.not_le.2 hlimit
  · rename_i hlimit
    simp only [Except.map, Except.ok.injEq, exists_eq', true_iff]
    exact Nat.not_lt.1 hlimit

/-- Every warning can be written exactly if the cursor can at every malformed line. -/
theorem forall_warnings_iff {lines : List (List Char)} {ps : List PatchLine}
    (h : lines.map PatchLine.ofLine = ps.map .ok) (position next : Nat) :
    (∀ w ∈ warnings position next ps, IsWritable w.cursor) ↔
      ∀ before line after, lines = before ++ line :: after → PatchLine.IsMalformed line →
        IsWritable (before.foldl PatchLine.numberAfter ((next : Int) - 1)) := by
  induction lines generalizing ps position next with
  | nil =>
    cases ps with
    | nil => simp [warnings]
    | cons p ps => cases h
  | cons line rest ih =>
    obtain ⟨p, qs, rfl, hp, hqs⟩ := List.map_eq_cons_iff.1 h.symm
    -- The first line gives a warning if it is malformed, the others do as they would alone.
    have hwarnings : (∀ w ∈ warnings position next (p :: qs), IsWritable w.cursor) ↔
        (PatchLine.IsMalformed line → IsWritable ((next : Int) - 1)) ∧
          ∀ w ∈ warnings (position + 1) (cursorAfter next [p]) qs, IsWritable w.cursor := by
      rw [PatchLine.isMalformed_iff hp.symm]
      cases p <;> simp [warnings, cursorAfter]
    rw [hwarnings, ih hqs.symm, ← PatchLine.numberAfter_eq hp.symm]
    constructor
    · rintro ⟨hline, hrest⟩ before l after hsplit hl
      cases before with
      | nil =>
        obtain ⟨rfl, -⟩ := List.cons.inj hsplit
        exact hline hl
      | cons k before =>
        obtain ⟨rfl, htail⟩ := List.cons.inj hsplit
        exact hrest before l after htail hl
    · intro hall
      refine ⟨hall [] line rest rfl, fun before l after hsplit => ?_⟩
      exact hall (line :: before) l after (by rw [hsplit, List.cons_append])

/-- Noting warnings ends well exactly if each of them can be written. -/
theorem run_noteAll_eq_ok_iff {α : Type} (ws : List Warning) (x : Noting Numeral.Fault α)
    (result : Except Numeral.Fault α) (hx : ∀ es, (x.run.run es).1 = result) (a : α) :
    ∀ es, (((do
      for w in ws do
        Noting.note .warning (← Noting.ofExcept id w.text)
      x : Noting Numeral.Fault α).run.run es).1 = .ok a ↔
        result = .ok a ∧ ∀ w ∈ ws, IsWritable w.cursor) := by
  induction ws with
  | nil =>
    intro es
    simp [hx]
  | cons w ws ih =>
    intro es
    rw [List.forIn_cons, List.forall_mem_cons, ← exists_text_iff]
    cases htext : w.text with
    | error fault =>
      have hthrow : (Noting.ofExcept id (Except.error fault) : Noting Numeral.Fault String) =
          throw fault := rfl
      simp [hthrow]
    | ok text =>
      have hpure : (Noting.ofExcept id (Except.ok text) : Noting Numeral.Fault String) =
          pure text := rfl
      have hrest := ih (es ++ [{ level := .warning, message := text, context := [] }])
      simp only [hpure, pure_bind, bind_assoc, Except.ok.injEq, exists_eq', true_and]
      exact hrest

/-- A patch has a map exactly if its lines can be classified and its warnings written, whatever has
been written before; the map is that of the classified lines. -/
theorem run_ofPatch_eq_ok_iff {patch : String} {map : PositionMap} (es : List Entry) :
    ((ofPatch patch).run.run es).1 = .ok map ↔
      ∃ ps, PatchLine.ofLines (PatchLine.physicalLines patch) = (ps, none) ∧ map = ofLines ps ∧
        ∀ w ∈ warnings 1 1 ps, IsWritable w.cursor := by
  by_cases hempty : patch.isEmpty = true
  · have hmap : ((ofPatch patch).run.run es).1 = .ok [] := by
      rw [ofPatch, if_pos hempty]
      rfl
    rw [hmap, PatchLine.physicalLines, if_pos hempty, Except.ok.injEq]
    constructor
    · rintro rfl
      exact ⟨[], rfl, rfl, by simp [warnings]⟩
    · rintro ⟨ps, hps, rfl, -⟩
      obtain ⟨rfl, -⟩ := Prod.mk.inj hps
      rfl
  · rcases hlines : PatchLine.ofLines (PatchLine.splitL patch.toList) with ⟨ps, fault?⟩
    rw [ofPatch, if_neg hempty, PatchLine.physicalLines, if_neg hempty]
    simp only [hlines]
    cases fault? with
    | some fault =>
      have hnotes := run_noteAll_eq_ok_iff (warnings 1 1 ps)
        (throw fault : Noting Numeral.Fault PositionMap) (.error fault) (fun _ => rfl) map es
      refine hnotes.trans ?_
      simp
    | none =>
      have hnotes := run_noteAll_eq_ok_iff (warnings 1 1 ps)
        (pure (ofLines ps) : Noting Numeral.Fault PositionMap) (.ok (ofLines ps))
        (fun _ => rfl) map es
      refine hnotes.trans ?_
      simp [eq_comm]

theorem outcome_ofPatch_eq_ok_iff {patch : String} {map : PositionMap} :
    (ofPatch patch).outcome.1 = .ok map ↔
      ∃ ps, PatchLine.ofLines (PatchLine.physicalLines patch) = (ps, none) ∧ map = ofLines ps ∧
        ∀ w ∈ warnings 1 1 ps, IsWritable w.cursor :=
  run_ofPatch_eq_ok_iff []

/-! ## Malformed headers -/

/-- A malformed header shows nothing, and leaves the cursor as it was. -/
theorem cursor_append_of_isMalformed {line : List Char} (h : PatchLine.IsMalformed line) :
    ¬ PatchLine.IsShown line ∧
      ∀ before, PatchLine.cursor (before ++ [line]) = PatchLine.cursor before := by
  have hnot : ¬ PatchLine.IsShown line := PatchLine.not_isShown_of_startsWith h.1
  refine ⟨hnot, fun before => ?_⟩
  rw [PatchLine.cursor, List.foldl_append, List.foldl_cons, List.foldl_nil, PatchLine.numberAfter]
  split
  · rename_i header hread
    exact absurd hread (h.2 header)
  · rw [if_neg hnot]
    rfl

/-- Every line has an answer but the unreadable ones.  A patch has the map of its cursor, which a
malformed header leaves as it was, exactly if no line is unreadable and the cursor can be written
at each malformed header. -/
theorem ofPatch_map_iff (line patch : String) :
    ((∃ answer, HunkHeader.read line = .ok answer) ↔ ¬ HunkHeader.IsUnreadable line.toList) ∧
    (PatchLine.IsMalformed line.toList → ¬ PatchLine.IsShown line.toList ∧
      ∀ before : List (List Char),
        PatchLine.cursor (before ++ [line.toList]) = PatchLine.cursor before) ∧
    ((∃ map, (ofPatch patch).outcome.1 = .ok map ∧
        ∀ (number : Int) (place : Nat), position? map number = some place ↔
          PatchLine.ShowsAt (PatchLine.physicalLines patch) number place ∧
            ∀ p, PatchLine.ShowsAt (PatchLine.physicalLines patch) number p → p ≤ place) ↔
      (∀ l ∈ PatchLine.physicalLines patch, ¬ HunkHeader.IsUnreadable l) ∧
        ∀ before l after, PatchLine.physicalLines patch = before ++ l :: after →
          PatchLine.IsMalformed l → IsWritable (PatchLine.cursor before)) := by
  refine ⟨HunkHeader.exists_readL_iff, cursor_append_of_isMalformed, ?_⟩
  rw [← PatchLine.exists_ofLines_iff]
  constructor
  · rintro ⟨map, hmap, -⟩
    obtain ⟨ps, hps, -, hwarnings⟩ := outcome_ofPatch_eq_ok_iff.1 hmap
    have hclasses := PatchLine.ofLines_eq_iff.1 hps
    exact ⟨⟨ps, hps⟩, (forall_warnings_iff hclasses 1 1).1 hwarnings⟩
  · rintro ⟨⟨ps, hps⟩, hmalformed⟩
    have hclasses := PatchLine.ofLines_eq_iff.1 hps
    have hwarnings := (forall_warnings_iff hclasses 1 1).2 hmalformed
    refine ⟨ofLines ps, outcome_ofPatch_eq_ok_iff.2 ⟨ps, hps, rfl, hwarnings⟩, ?_⟩
    exact fun number place => position?_ofLines_iff hclasses

/-- A malformed header after a shown line: what comes next takes the number after that. -/
theorem ofPatch_garbledHeader :
    PatchLine.IsMalformed "@@ garbage @@".toList ∧
      PatchLine.cursor (["@@ -1,2 +1,2 @@".toList, " a".toList] ++ ["@@ garbage @@".toList]) =
        PatchLine.cursor ["@@ -1,2 +1,2 @@".toList, " a".toList] := by
  have hread : HunkHeader.readL "@@ garbage @@".toList = .ok (.error .missingRanges) := by
    decide +kernel
  have hmalformed : PatchLine.IsMalformed "@@ garbage @@".toList :=
    ⟨by decide +kernel, fun header => by rw [hread]; simp⟩
  have hkept := (ofPatch_map_iff "@@ garbage @@" "@@ -1,2 +1,2 @@\n a\n@@ garbage @@").2.1 hmalformed
  exact ⟨hmalformed, hkept.2 _⟩

/-- A superscript is a digit and no number, and neither the header nor the patch has an answer. -/
theorem ofPatch_superscript :
    (¬ ∃ answer, HunkHeader.read "@@ -² +1 @@" = .ok answer) ∧
      ¬ ∃ map, (ofPatch "@@ -² +1 @@").outcome.1 = .ok map := by
  have hread : HunkHeader.read "@@ -² +1 @@" = .error (.notDecimal "²") := by
    decide +kernel
  have hpatch : (ofPatch "@@ -² +1 @@").outcome.1 = .error (.notDecimal "²") := by
    decide +kernel
  rw [hread, hpatch]
  simp

end PositionMap

end InlineReview
