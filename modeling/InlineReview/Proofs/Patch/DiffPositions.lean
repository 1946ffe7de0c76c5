import InlineReview.Proofs.Patch.Assignments
import InlineReview.Proofs.Patch.Headers

/-!
# Where a diff shows the lines of a file

The map of a diff has the lines that the diff covers as its keys, in ascending order, and gives
for each the place of the line of the patch that shows it.

* `assignments_body` — the numbers that the lines of one hunk take.
* `shows_of_mem_assignments` — a numbered line shows the line of the file with that number.
* `ofPatch_diff` — the map of a diff.
-/

namespace InlineReview.PositionMap

open Text

/-! ## The body of a hunk -/

theorem cursorAfter_body (next : Nat) (body : List DiffLine) :
    cursorAfter next (body.map PatchLine.ofDiffLine) =
      next + (body.filterMap DiffLine.shown?).length := by
  induction body generalizing next with
  | nil => rfl
  | cons l body ih =>
    cases l <;>
      simp [PatchLine.ofDiffLine, DiffLine.shown?, cursorAfter, ih, List.filterMap_cons] <;> omega

/-- The lines of a body that are shown take the numbers from `next` on, one after the other. -/
theorem assignments_body (position next : Nat) (body : List DiffLine) :
    (assignments position next (body.map PatchLine.ofDiffLine)).map Prod.fst =
      List.range' next (body.filterMap DiffLine.shown?).length := by
  induction body generalizing position next with
  | nil => rfl
  | cons l body ih =>
    cases l <;>
      simp [PatchLine.ofDiffLine, DiffLine.shown?, assignments, ih, List.filterMap_cons,
        List.range'_succ]

/-- A pair that a body assigns belongs to a line of the body, and the text of that line comes in
its turn among the texts that the body shows. -/
theorem exists_line_of_mem_body {position next line place : Nat} {body : List DiffLine}
    (h : (line, place) ∈ assignments position next (body.map PatchLine.ofDiffLine)) :
    ∃ l text, body[place - position]? = some l ∧ l.shown? = some text ∧ next ≤ line ∧
      (body.filterMap DiffLine.shown?)[line - next]? = some text := by
  obtain ⟨before, after, hsplit, rfl, rfl⟩ := mem_assignments.1 h
  obtain ⟨front, back, rfl, rfl, hback⟩ := List.map_eq_append_iff.1 hsplit
  obtain ⟨l, rest, rfl, hl, -⟩ := List.map_eq_cons_iff.1 hback
  obtain ⟨text, htext⟩ : ∃ text, l.shown? = some text := by
    cases hshown : l.shown? with
    | some text => exact ⟨text, rfl⟩
    | none => simp [PatchLine.ofDiffLine, hshown] at hl
  refine ⟨l, text, by simp, htext, ?_, ?_⟩
  · rw [cursorAfter_body]
    exact Nat.le_add_right _ _
  · rw [cursorAfter_body, Nat.add_sub_cancel_left, List.filterMap_append]
    simp [htext]

/-! ## Whole diffs -/

theorem length_ofHunk (h : Hunk) : (PatchLine.ofHunk h).length = h.lines.length := by
  simp [PatchLine.ofHunk, Hunk.lines]

theorem assignments_hunk (position next : Nat) (h : Hunk) (ls : List PatchLine) :
    assignments position next (PatchLine.ofHunk h ++ ls) =
      assignments (position + 1) h.new.start.value (h.body.map PatchLine.ofDiffLine) ++
        assignments (position + h.lines.length)
          (cursorAfter next (PatchLine.ofHunk h)) ls := by
  rw [assignments_append, length_ofHunk]
  rfl

section

variable {file : List (List Char)}

theorem length_shown {h : Hunk} (hshows : h.shown.map some = h.new.numbers.map (lineAt? file)) :
    h.shown.length = h.new.size := by
  have := congrArg List.length hshows
  simpa [LineRange.numbers] using this

/-- The numbers that a diff assigns are those of the lines that it covers. -/
theorem assignments_diff {hunks : List Hunk}
    (hshows : ∀ h ∈ hunks, h.shown.map some = h.new.numbers.map (lineAt? file))
    (position next : Nat) :
    (assignments position next (hunks.flatMap PatchLine.ofHunk)).map Prod.fst =
      Diff.covered hunks := by
  induction hunks generalizing position next with
  | nil => rfl
  | cons h hunks ih =>
    have hrest := ih fun g hg => hshows g (by simp [hg])
    have hlen : (h.body.filterMap DiffLine.shown?).length = h.new.size :=
      length_shown (hshows h (by simp))
    rw [List.flatMap_cons, assignments_hunk, List.map_append, assignments_body, hlen, hrest]
    rfl

/-- A numbered line of a diff shows the line of the file with that number. -/
theorem shows_of_mem_assignments {hunks : List Hunk}
    (hshows : ∀ h ∈ hunks, h.shown.map some = h.new.numbers.map (lineAt? file))
    {position next line place : Nat}
    (hmem : (line, place) ∈ assignments position next (hunks.flatMap PatchLine.ofHunk)) :
    ∃ text, lineAt? file line = some text ∧
      ((Diff.lines hunks)[place - position]? = some (' ' :: text) ∨
        (Diff.lines hunks)[place - position]? = some ('+' :: text)) := by
  induction hunks generalizing position next with
  | nil => simp [assignments] at hmem
  | cons h hunks ih =>
    rw [List.flatMap_cons, assignments_hunk, List.mem_append] at hmem
    rcases hmem with hbody | hrest
    · -- the line is in the body of the first hunk
      have hplace : position + 1 ≤ place := le_of_mem_assignments hbody
      obtain ⟨l, text, hl, htext, hline, hshown⟩ := exists_line_of_mem_body hbody
      have hlt : line - h.new.start.value < h.shown.length :=
        (List.getElem?_eq_some_iff.1 hshown).1
      have hfile : lineAt? file line = some text := by
        have hboth := congrArg (·[line - h.new.start.value]?) (hshows h (by simp))
        rw [length_shown (hshows h (by simp))] at hlt
        have hnumber : (h.new.numbers)[line - h.new.start.value]? = some line := by
          rw [LineRange.numbers, List.getElem?_range' hlt]
          exact congrArg some (by omega)
        have hshown' : h.shown[line - h.new.start.value]? = some text := hshown
        simpa [List.getElem?_map, hshown', hnumber] using hboth.symm
      have hwritten : (Diff.lines (h :: hunks))[place - position]? = some l.written := by
        obtain ⟨i, hi⟩ : ∃ i, place - position = i + 1 := ⟨place - position - 1, by omega⟩
        have hi' : place - (position + 1) = i := by omega
        rw [hi'] at hl
        have hil : i < h.body.length := (List.getElem?_eq_some_iff.1 hl).1
        rw [hi, Diff.lines, List.flatMap_cons, Hunk.lines, List.cons_append,
          List.getElem?_cons_succ, List.getElem?_append_left (by simpa using hil),
          List.getElem?_map, hl, Option.map_some]
      refine ⟨text, hfile, ?_⟩
      rw [hwritten]
      cases l with
      | context t => exact Or.inl (by rw [← Option.some.inj htext]; rfl)
      | added t => exact Or.inr (by rw [← Option.some.inj htext]; rfl)
      | removed t => exact absurd htext (by simp [DiffLine.shown?])
      | unended => exact absurd htext (by simp [DiffLine.shown?])
    · -- the line is in a later hunk
      have hplace : position + h.lines.length ≤ place := le_of_mem_assignments hrest
      obtain ⟨text, hfile, hline⟩ := ih (fun g hg => hshows g (by simp [hg])) hrest
      have hshift : (Diff.lines (h :: hunks))[place - position]? =
          (Diff.lines hunks)[place - (position + h.lines.length)]? := by
        rw [Diff.lines, List.flatMap_cons, List.getElem?_append_right (by omega)]
        exact congrArg (fun i => (Diff.lines hunks)[i]?) (by omega)
      exact ⟨text, hfile, by rw [hshift]; exact hline⟩

end

/-! ## The map of a diff -/

theorem ofPatch_of_ofLines {patch : String} {ls : List PatchLine} (hne : patch ≠ "")
    (hlines : PatchLine.ofLines (PatchLine.splitL patch.toList) = (ls, none))
    (hwarnings : warnings 1 1 ls = []) : (ofPatch patch).outcome = (.ok (ofLines ls), []) := by
  have hempty : patch.isEmpty = false := by simpa using hne
  simp only [ofPatch, hempty, hlines, hwarnings]
  rfl

theorem newline_not_mem_written (l : DiffLine) : '\n' ∉ l.written := by
  cases l with
  | context text => simpa [DiffLine.written] using text.property
  | added text => simpa [DiffLine.written] using text.property
  | removed text => simpa [DiffLine.written] using text.property
  | unended => decide

theorem newline_not_mem_header (h : Hunk) : '\n' ∉ h.header := by
  have hend : '\n' ∉ h.headerEnd := by
    cases hheading : h.heading with
    | none => simp [Hunk.headerEnd, hheading]
    | some text => simpa [Hunk.headerEnd, hheading] using text.property
  rw [← h.written_form]
  exact HunkHeader.Form.newline_not_mem_spaced h.old.isDigits_digits h.new.isDigits_digits hend

theorem newline_not_mem_lines {hunks : List Hunk} {l : List Char} (hl : l ∈ Diff.lines hunks) :
    '\n' ∉ l := by
  obtain ⟨h, -, hmem⟩ := List.mem_flatMap.1 hl
  rcases List.mem_cons.1 hmem with rfl | hbody
  · exact newline_not_mem_header h
  · obtain ⟨d, -, rfl⟩ := List.mem_map.1 hbody
    exact newline_not_mem_written d

theorem ne_nil_of_mem_lines {hunks : List Hunk} {l : List Char} (hl : l ∈ Diff.lines hunks) :
    l ≠ [] := by
  obtain ⟨h, -, hmem⟩ := List.mem_flatMap.1 hl
  rcases List.mem_cons.1 hmem with rfl | hbody
  · simp [Hunk.header]
  · obtain ⟨d, -, rfl⟩ := List.mem_map.1 hbody
    cases d <;> simp [DiffLine.written, DiffLine.marker]

theorem lines_ne_nil {hunks : List Hunk} (h : hunks ≠ []) : Diff.lines hunks ≠ [] := by
  cases hunks with
  | nil => exact absurd rfl h
  | cons g hunks => simp [Diff.lines, Hunk.lines]

/-- The physical lines of a diff's text are its lines. -/
theorem splitL_text {hunks : List Hunk} (h : hunks ≠ []) (isEnded : Bool) :
    PatchLine.splitL (Diff.text hunks isEnded).toList = Diff.lines hunks := by
  have hfree : ∀ l ∈ Diff.lines hunks, '\n' ∉ l := fun l hl => newline_not_mem_lines hl
  rw [Diff.text, String.toList_ofList]
  cases isEnded with
  | true => exact PatchLine.splitL_unlinesL_newline (lines_ne_nil h) hfree
  | false =>
    obtain ⟨front, last, hsplit⟩ : ∃ front last, Diff.lines hunks = front ++ [last] :=
      ⟨_, _, (List.dropLast_concat_getLast (lines_ne_nil h)).symm⟩
    have hmem : last ∈ Diff.lines hunks := by simp [hsplit]
    have hlast : last ≠ [] := ne_nil_of_mem_lines hmem
    obtain ⟨l, c, rfl⟩ : ∃ l c, last = l ++ [c] :=
      ⟨_, _, (List.dropLast_concat_getLast hlast).symm⟩
    rw [hsplit] at hfree ⊢
    simpa using PatchLine.splitL_unlinesL hfree

/-- The map of a diff onto a file has the lines that the diff covers as its keys, each with the
place where the patch shows that line of the file, and both counts grow together. -/
theorem ofPatch_diff {file : List (List Char)} {hunks : List Hunk} (h : IsDiffOnto file hunks)
    (isEnded : Bool) :
    ∃ map, (ofPatch (Diff.text hunks isEnded)).outcome = (.ok map, []) ∧
      map.map Prod.fst = Diff.covered hunks ∧
      (∀ line ∈ Diff.covered hunks, ∃ place text,
        map.position? line = some place ∧ lineAt? file line = some text ∧
          (lineAt? (Diff.lines hunks) place = some (' ' :: text) ∨
            lineAt? (Diff.lines hunks) place = some ('+' :: text))) ∧
      map.Pairwise fun e f => e.1 < f.1 ∧ e.2 < f.2 := by
  let pairs := assignments 1 1 (hunks.flatMap PatchLine.ofHunk)
  have hkeys : pairs.map Prod.fst = Diff.covered hunks := assignments_diff h.shows 1 1
  have hnodup : (pairs.map Prod.fst).Nodup := by
    rw [hkeys]
    exact h.ascending.imp fun hlt => Nat.ne_of_lt hlt
  have hmap : ofLines (hunks.flatMap PatchLine.ofHunk) = pairs := Assoc.ofList_of_nodup hnodup
  have hlines := PatchLine.ofLines_lines hunks
  rw [← splitL_text h.ne_nil isEnded] at hlines
  have hne : Diff.text hunks isEnded ≠ "" := by
    intro hempty
    have hsplit := splitL_text h.ne_nil isEnded
    rw [hempty] at hsplit
    have hmem : [] ∈ Diff.lines hunks := by
      rw [← hsplit]
      decide
    exact ne_nil_of_mem_lines hmem rfl
  refine ⟨pairs, ?_, hkeys, fun line hline => ?_, ?_⟩
  · rw [← hmap]
    exact ofPatch_of_ofLines hne hlines
      (warnings_of_forall (PatchLine.malformed_not_mem_ofHunk hunks) 1 1)
  · obtain ⟨⟨l, place⟩, hmem, rfl⟩ := List.mem_map.1 (hkeys ▸ hline)
    obtain ⟨text, hfile, hshown⟩ := shows_of_mem_assignments h.shows hmem
    have hplace : 1 ≤ place := le_of_mem_assignments hmem
    obtain ⟨i, rfl⟩ : ∃ i, place = i + 1 := ⟨place - 1, by omega⟩
    refine ⟨i + 1, text, ?_, hfile, hshown⟩
    simpa [position?] using Assoc.get?_of_mem hnodup hmem
  · have hplaces := assignments_places 1 1 (hunks.flatMap PatchLine.ofHunk)
    have hascending : (pairs.map Prod.fst).Pairwise (· < ·) := hkeys ▸ h.ascending
    exact (List.pairwise_map.1 hascending).and (List.pairwise_map.1 hplaces)

/-! ## An example -/

/-- A file of four lines. -/
def sampleFile : List (List Char) := [['a'], ['b'], ['c'], ['d']]

/-- A line of one character. -/
def sampleLine (c : Char) (h : c ≠ '\n') : LineText := ⟨[c], by simpa using h.symm⟩

/-- A number of one digit. -/
def sampleNumber (c : Char) (h : isAsciiDigit c = true) : AsciiNumber where
  digits := [c]
  ne_nil := by simp
  all_digits := by simpa using h
  length_le := by simp [Numeral.digitLimit]

/-- A diff onto the file of four lines: a hunk with a count left out and a heading that holds the
mark of a header, one that only removes, and one whose last line no newline ends. -/
def sampleDiff : List Hunk :=
  let number := sampleNumber
  [ { old := { start := number '1' (by decide), count := some (number '2' (by decide)) }
      new := { start := number '1' (by decide), count := none }
      heading := some ⟨['@', '@', ' ', '-', 'x'], by decide⟩
      body := [.removed (sampleLine 'x' (by decide)), .context (sampleLine 'a' (by decide))] },
    { old := { start := number '4' (by decide), count := none }
      new := { start := number '2' (by decide), count := some (number '0' (by decide)) }
      heading := none
      body := [.removed (sampleLine 'y' (by decide))] },
    { old := { start := number '6' (by decide), count := none }
      new := { start := number '3' (by decide), count := some (number '2' (by decide)) }
      heading := none
      body := [.added (sampleLine 'c' (by decide)), .context (sampleLine 'd' (by decide)),
        .unended] } ]

theorem sampleDiff_isDiffOnto : IsDiffOnto sampleFile sampleDiff where
  ne_nil := by decide
  ascending := by decide
  shows := by decide

/-- Three of the four lines are shown. -/
theorem ofPatch_sampleDiff :
    IsDiffOnto sampleFile sampleDiff ∧
      ∃ map, (ofPatch (Diff.text sampleDiff false)).outcome = (.ok map, []) ∧
        map.map Prod.fst = [1, 3, 4] ∧
        (∀ line ∈ [1, 3, 4], ∃ place text,
          map.position? (line : Nat) = some place ∧ lineAt? sampleFile line = some text ∧
            (lineAt? (Diff.lines sampleDiff) place = some (' ' :: text) ∨
              lineAt? (Diff.lines sampleDiff) place = some ('+' :: text))) ∧
        map.Pairwise fun e f => e.1 < f.1 ∧ e.2 < f.2 :=
  ⟨sampleDiff_isDiffOnto, ofPatch_diff sampleDiff_isDiffOnto false⟩

end InlineReview.PositionMap
