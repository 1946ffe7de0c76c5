import InlineReview.Proofs.Patch.Cursor
import InlineReview.Proofs.Patch.HeaderLanguage
import Mathlib.Order.Lattice.Nat

/-!
# The numbers of the lines of a patch

A shown line has a number of the new file: the first line of the last header before it, counted on
by the shown lines since, or just the count of shown lines where no header came before.  The map of
a patch has for each number the last place at which a line with that number is shown, and nothing
for the others, as long as the number can be written wherever a malformed header is warned of.

* `PatchLine.countsTo_iff` — the cursor is the number that the lines have come to.
* `PatchLine.ShowsAt.unique` — a place has one number.
* `PositionMap.ofPatch_numberedAt_iff` — which patches have the map of the numbers of their lines.
* `PositionMap.ofPatch_overLimit` — a patch that runs out of numbers.
-/

namespace InlineReview

open Text

namespace PatchLine

/-! ## Counting -/

/-- Is a line the header of a hunk? -/
def IsReset (line : List Char) : Prop :=
  startsWith HunkHeader.marker line = true ∧
    ∃ header, HunkHeader.readL line = .ok (.ok header)

/-- How many of some lines are shown. -/
def shownCount (lines : List (List Char)) : Nat := lines.countP fun line => decide (IsShown line)

/-- Which number have the lines of a patch come to?  The lines that are shown after the last header
are counted on from the number before its first line. -/
inductive CountsTo : List (List Char) → Int → Prop
  | afterHeader {before since : List (List Char)} {line : List Char} {header : HunkHeader}
      (opens : startsWith HunkHeader.marker line = true)
      (reads : HunkHeader.readL line = .ok (.ok header)) (last : ∀ l ∈ since, ¬ IsReset l) :
      CountsTo (before ++ line :: since) (header.newStart - 1 + shownCount since)
  | fromStart {lines : List (List Char)} (none : ∀ l ∈ lines, ¬ IsReset l) :
      CountsTo lines (shownCount lines)

theorem isShown_nil : IsShown [] := ⟨rfl, by simp⟩

/-- A line that is not empty is shown, unless its first character says otherwise. -/
theorem isShown_cons_iff {c : Char} {line : List Char} : IsShown (c :: line) ↔
    startsWith HunkHeader.marker (c :: line) = false ∧ c ≠ '-' ∧ c ≠ '\x5c' := by
  simp [IsShown]

theorem shownCount_of_forall {lines : List (List Char)} (h : ∀ l ∈ lines, IsShown l) :
    shownCount lines = lines.length :=
  List.countP_eq_length.2 fun l hl => decide_eq_true (h l hl)

/-- A shown line is no header. -/
theorem not_isReset_of_isShown {line : List Char} (h : IsShown line) : ¬ IsReset line :=
  fun hreset => not_isShown_of_startsWith hreset.1 h

/-- Is a line with a number shown at a place of the patch? -/
def NumberedAt (lines : List (List Char)) (number : Int) (place : Nat) : Prop :=
  ∃ before line after, lines = before ++ line :: after ∧ IsShown line ∧
    place = before.length + 1 ∧ CountsTo (before ++ [line]) number

theorem numberAfter_of_not_isReset {line : List Char} (h : ¬ IsReset line) (number : Int) :
    numberAfter number line = number + shownCount [line] := by
  have hcount : shownCount [line] = if IsShown line then 1 else 0 := by
    simp [shownCount, List.countP_cons]
  have hplain : numberAfter number line = if IsShown line then number + 1 else number := by
    rw [numberAfter]
    split
    · rename_i header hread
      by_cases hmark : startsWith HunkHeader.marker line = true
      · exact absurd ⟨hmark, header, hread⟩ h
      · rw [readL_of_not_startsWith (by simpa using hmark)] at hread
        cases hread
    · rfl
  rw [hplain, hcount]
  split <;> simp

/-- Without a header the shown lines are counted. -/
theorem foldl_numberAfter {lines : List (List Char)} (h : ∀ l ∈ lines, ¬ IsReset l)
    (number : Int) : lines.foldl numberAfter number = number + shownCount lines := by
  induction lines generalizing number with
  | nil => simp [shownCount]
  | cons line rest ih =>
    have hrest : ∀ l ∈ rest, ¬ IsReset l := fun l hl => h l (List.mem_cons_of_mem line hl)
    have hcount : shownCount (line :: rest) = shownCount rest + shownCount [line] := by
      simp [shownCount, List.countP_cons]
    rw [List.foldl_cons, numberAfter_of_not_isReset (h line List.mem_cons_self), ih hrest, hcount]
    push_cast
    omega

theorem CountsTo.cursor_eq {lines : List (List Char)} {number : Int} (h : CountsTo lines number) :
    cursor lines = number := by
  cases h with
  | afterHeader opens reads last =>
    rw [cursor, List.foldl_append, List.foldl_cons, foldl_numberAfter last]
    simp only [numberAfter, reads]
  | fromStart none => rw [cursor, foldl_numberAfter none, Int.zero_add]

/-- Lines always come to a number, since one of the headers is the last unless there is none. -/
theorem exists_countsTo (lines : List (List Char)) : ∃ number, CountsTo lines number := by
  induction lines using List.reverseRecOn with
  | nil => exact ⟨_, .fromStart (by simp)⟩
  | append_singleton lines line ih =>
    obtain ⟨number, hnumber⟩ := ih
    by_cases hreset : IsReset line
    · obtain ⟨opens, header, reads⟩ := hreset
      exact ⟨_, .afterHeader opens reads (by simp)⟩
    · have hkeep : ∀ {ls : List (List Char)}, (∀ l ∈ ls, ¬ IsReset l) →
          ∀ l ∈ ls ++ [line], ¬ IsReset l := by
        intro ls hls l hl
        rcases List.mem_append.1 hl with hl | hl
        · exact hls l hl
        · rwa [List.mem_singleton.1 hl]
      cases hnumber with
      | afterHeader opens reads last =>
        rw [List.append_assoc, List.cons_append]
        exact ⟨_, .afterHeader opens reads (hkeep last)⟩
      | fromStart none => exact ⟨_, .fromStart (hkeep none)⟩

/-- The cursor is the number that the lines have come to. -/
theorem countsTo_iff {lines : List (List Char)} {number : Int} :
    CountsTo lines number ↔ cursor lines = number := by
  constructor
  · exact CountsTo.cursor_eq
  · rintro rfl
    obtain ⟨number, h⟩ := exists_countsTo lines
    rwa [h.cursor_eq]

theorem numberedAt_iff {lines : List (List Char)} {number : Int} {place : Nat} :
    NumberedAt lines number place ↔ ShowsAt lines number place := by
  simp only [NumberedAt, ShowsAt, countsTo_iff]

/-! ## Places -/

section Places

variable {lines : List (List Char)} {number : Int} {place : Nat}

theorem ShowsAt.le_length (h : ShowsAt lines number place) : place ≤ lines.length := by
  obtain ⟨before, line, after, rfl, -, rfl, -⟩ := h
  simp only [List.length_append, List.length_cons]
  omega

/-- A place has one number. -/
theorem ShowsAt.unique {other : Int} (h : ShowsAt lines number place)
    (h' : ShowsAt lines other place) : number = other := by
  obtain ⟨before, line, after, rfl, -, rfl, rfl⟩ := h
  obtain ⟨before', line', after', hsplit, -, hplace, rfl⟩ := h'
  have hlength : before.length = before'.length := by omega
  obtain ⟨rfl, hrest⟩ := List.append_inj hsplit hlength
  obtain ⟨rfl, -⟩ := List.cons.inj hrest
  rfl

/-- A number that is shown has a last place. -/
theorem ShowsAt.exists_last (h : ShowsAt lines number place) :
    ∃ p, ShowsAt lines number p ∧ ∀ q, ShowsAt lines number q → q ≤ p := by
  have hbounded : BddAbove {p | ShowsAt lines number p} := ⟨lines.length, fun _ hp => hp.le_length⟩
  exact ⟨_, Nat.sSup_mem ⟨place, h⟩ hbounded, fun q hq => le_csSup hbounded hq⟩

end Places

/-! ## Answers -/

/-- Has every line that opens as a header an answer, be it a header or a malformed one? -/
def IsAnswered (lines : List (List Char)) : Prop :=
  ∀ line ∈ lines, startsWith HunkHeader.marker line = true →
    ∃ answer, HunkHeader.readL line = .ok answer

theorem isAnswered_of_forall_isOk {lines : List (List Char)}
    (h : ∀ line ∈ lines, (HunkHeader.readL line).isOk = true) : IsAnswered lines := by
  intro line hline _
  have hanswer := h line hline
  cases hread : HunkHeader.readL line with
  | ok answer => exact ⟨answer, rfl⟩
  | error fault =>
    rw [hread] at hanswer
    cases hanswer

/-- Lines can be classified exactly if the headers among them have answers. -/
theorem isAnswered_iff {lines : List (List Char)} :
    IsAnswered lines ↔ ∃ ps, ofLines lines = (ps, none) := by
  simp only [exists_ofLines_iff, ← HunkHeader.exists_readL_iff]
  constructor
  · intro h line hline
    by_cases hmark : startsWith HunkHeader.marker line = true
    · exact h line hline hmark
    · exact ⟨_, readL_of_not_startsWith (by simpa using hmark)⟩
  · exact fun h line hline _ => h line hline

end PatchLine

namespace PositionMap

open PatchLine (NumberedAt ShowsAt CountsTo IsMalformed IsAnswered physicalLines)

/-! ## The map of the numbers -/

/-- A map gives for each number the last place at which a line with that number is shown. -/
structure Answers (map : PositionMap) (lines : List (List Char)) : Prop where
  last : ∀ (number : Int) (place : Nat), position? map number = some place ↔
    IsGreatest {p | NumberedAt lines number p} place
  nowhere : ∀ number : Int, position? map number = none ↔ ∀ p, ¬ NumberedAt lines number p
  apart : ∀ (m n : Int) (place : Nat), position? map m = some place →
    position? map n = some place → m = n

theorem answers_ofLines {lines : List (List Char)} {ps : List PatchLine}
    (h : lines.map PatchLine.ofLine = ps.map .ok) : (ofLines ps).Answers lines := by
  have hlast : ∀ (number : Int) (place : Nat), position? (ofLines ps) number = some place ↔
      IsGreatest {p | NumberedAt lines number p} place := by
    intro number place
    rw [position?_ofLines_iff h]
    simp only [IsGreatest, mem_upperBounds, Set.mem_ofPred_eq, PatchLine.numberedAt_iff]
  have hshown : ∀ {number : Int} {place : Nat}, position? (ofLines ps) number = some place →
      ShowsAt lines number place := fun hplace => ((position?_ofLines_iff h).1 hplace).1
  refine ⟨hlast, fun number => ?_, fun m n place hm hn => (hshown hm).unique (hshown hn)⟩
  simp only [PatchLine.numberedAt_iff]
  constructor
  · intro hnone p hp
    obtain ⟨q, hq, hgreatest⟩ := hp.exists_last
    rw [(position?_ofLines_iff h).2 ⟨hq, hgreatest⟩] at hnone
    cases hnone
  · intro hno
    cases hplace : position? (ofLines ps) number with
    | none => rfl
    | some place => exact absurd (hshown hplace) (hno place)

/-- Can the number that some lines have come to be written, wherever a malformed header follows
them? -/
def IsReportable (lines : List (List Char)) : Prop :=
  ∀ before line after number, lines = before ++ line :: after → IsMalformed line →
    CountsTo before number → IsWritable number

/-- A patch that can be classified has the map of its classes, if it is reportable. -/
theorem outcome_ofPatch_iff {patch : String} {ps : List PatchLine}
    (hps : PatchLine.ofLines (physicalLines patch) = (ps, none)) {map : PositionMap} :
    (ofPatch patch).outcome.1 = .ok map ↔
      map = ofLines ps ∧ IsReportable (physicalLines patch) := by
  have hwarnings : (∀ w ∈ warnings 1 1 ps, IsWritable w.cursor) ↔
      IsReportable (physicalLines patch) := by
    rw [forall_warnings_iff (PatchLine.ofLines_eq_iff.1 hps) 1 1]
    constructor
    · intro hwritable before line after number hsplit hmalformed hnumber
      rw [← hnumber.cursor_eq]
      exact hwritable before line after hsplit hmalformed
    · intro hreportable before line after hsplit hmalformed
      exact hreportable before line after _ hsplit hmalformed (PatchLine.countsTo_iff.2 rfl)
  rw [outcome_ofPatch_eq_ok_iff, ← hwarnings]
  constructor
  · rintro ⟨qs, hqs, rfl, hwritable⟩
    obtain ⟨rfl, -⟩ := Prod.mk.inj (hps.symm.trans hqs)
    exact ⟨rfl, hwritable⟩
  · rintro ⟨rfl, hwritable⟩
    exact ⟨ps, hps, rfl, hwritable⟩

/-- A patch whose headers have answers has the map of the numbers of its lines, exactly if it is
reportable. -/
theorem ofPatch_numberedAt_iff {patch : String} (hanswered : IsAnswered (physicalLines patch)) :
    (∃ map, (ofPatch patch).outcome.1 = .ok map ∧ map.Answers (physicalLines patch)) ↔
      IsReportable (physicalLines patch) := by
  obtain ⟨ps, hps⟩ := PatchLine.isAnswered_iff.1 hanswered
  constructor
  · rintro ⟨map, hmap, -⟩
    exact ((outcome_ofPatch_iff hps).1 hmap).2
  · intro hreportable
    exact ⟨ofLines ps, (outcome_ofPatch_iff hps).2 ⟨rfl, hreportable⟩,
      answers_ofLines (PatchLine.ofLines_eq_iff.1 hps)⟩

/-- A patch with a map is reportable. -/
theorem isReportable_of_outcome {patch : String} {map : PositionMap}
    (h : (ofPatch patch).outcome.1 = .ok map) : IsReportable (physicalLines patch) := by
  obtain ⟨ps, hps, -, -⟩ := outcome_ofPatch_eq_ok_iff.1 h
  exact ((outcome_ofPatch_iff hps).1 h).2

/-- A patch has a map exactly if its headers have answers and it is reportable. -/
theorem exists_map_iff {patch : String} : (∃ map, (ofPatch patch).outcome.1 = .ok map) ↔
    IsAnswered (physicalLines patch) ∧ IsReportable (physicalLines patch) := by
  constructor
  · rintro ⟨map, hmap⟩
    obtain ⟨ps, hps, -, -⟩ := outcome_ofPatch_eq_ok_iff.1 hmap
    exact ⟨PatchLine.isAnswered_iff.2 ⟨ps, hps⟩, isReportable_of_outcome hmap⟩
  · rintro ⟨hanswered, hreportable⟩
    obtain ⟨ps, hps⟩ := PatchLine.isAnswered_iff.1 hanswered
    exact ⟨ofLines ps, (outcome_ofPatch_iff hps).2 ⟨rfl, hreportable⟩⟩

/-- A line before the first header, and two hunks that both show line 1, with a malformed header
between them. -/
def overlapping : List (List Char) :=
  ["z".toList, "@@ -1 +1,2 @@".toList, " a".toList, "-b".toList, "@@ x".toList,
    "@@ -1 +1 @@".toList, "+c".toList]

/-- The patch of these lines. -/
def overlappingPatch : String := String.ofList (unlinesL overlapping)

theorem isAnswered_overlapping : IsAnswered (physicalLines overlappingPatch) := by
  have hlines : physicalLines overlappingPatch = overlapping := by decide +kernel
  rw [hlines]
  exact PatchLine.isAnswered_of_forall_isOk (by decide +kernel)

/-- The line has its later place, and the line after it, which is not shown, has none. -/
theorem ofPatch_overlapping :
    IsAnswered (physicalLines overlappingPatch) ∧
    ∃ map, (ofPatch overlappingPatch).outcome.1 = .ok map ∧
      map.Answers (physicalLines overlappingPatch) ∧
      position? map 1 = some 7 ∧ position? map 2 = none := by
  have hmap : (ofPatch overlappingPatch).outcome.1 = .ok [(1, 7)] := by decide +kernel
  obtain ⟨map, hok, hanswers⟩ :=
    (ofPatch_numberedAt_iff isAnswered_overlapping).2 (isReportable_of_outcome hmap)
  obtain rfl : [(1, 7)] = map := Except.ok.inj (hmap.symm.trans hok)
  exact ⟨isAnswered_overlapping, _, hok, hanswers, rfl, rfl⟩

/-! ## Running out of numbers -/

/-- A shown line, a hunk that shows two lines, and one more line. -/
def hunkLines (header : HunkHeader) (last : List Char) : List (List Char) :=
  [['z'], (header.printed false false).toList, [' ', 'a'], [' ', 'b'], last]

/-- The patch of these lines. -/
def hunkPatch (header : HunkHeader) (last : List Char) : String :=
  String.ofList (unlinesL (hunkLines header last))

section HunkLines

variable {header : HunkHeader} {last : List Char}

theorem physicalLines_hunkPatch (hheading : '\n' ∉ header.heading.toList) (hne : last ≠ [])
    (hlast : '\n' ∉ last) : physicalLines (hunkPatch header last) = hunkLines header last := by
  obtain ⟨front, c, rfl⟩ : ∃ front c, last = front ++ [c] :=
    ⟨_, _, (List.dropLast_append_getLast hne).symm⟩
  have hfree : ∀ l ∈ hunkLines header (front ++ [c]), '\n' ∉ l := by
    simp only [hunkLines, List.forall_mem_cons, List.not_mem_nil, false_imp_iff, implies_true,
      and_true]
    exact ⟨by decide, HunkHeader.newline_not_mem_printed hheading, by decide, by decide, hlast⟩
  have hsplit : PatchLine.splitL (unlinesL (hunkLines header (front ++ [c]))) =
      hunkLines header (front ++ [c]) :=
    @PatchLine.splitL_unlinesL (hunkLines header (front ++ [c])).dropLast front c hfree
  have hnotEmpty : (hunkPatch header (front ++ [c])).isEmpty = false := by
    simp [hunkPatch, hunkLines, unlinesL, joinWith]
  rw [physicalLines, if_neg (by simp [hnotEmpty]), hunkPatch, String.toList_ofList]
  exact hsplit

/-- The second line of the hunk comes after the first. -/
theorem cursor_hunkLines (h : header.IsPrintable false false) :
    PatchLine.cursor ((hunkLines header last).take 4) = header.newStart + 1 := by
  have hread : HunkHeader.readL (header.printed false false).toList = .ok (.ok header) :=
    HunkHeader.read_printed h
  have hshown : ∀ l ∈ [[' ', 'a'], [' ', 'b']], PatchLine.IsShown l := by
    simp only [List.forall_mem_cons, List.not_mem_nil, false_imp_iff, implies_true, and_true,
      PatchLine.isShown_cons_iff]
    decide
  have hcounts : CountsTo
      ([['z']] ++ (header.printed false false).toList :: [[' ', 'a'], [' ', 'b']])
      (header.newStart - 1 + PatchLine.shownCount [[' ', 'a'], [' ', 'b']]) :=
    .afterHeader (header.startsWith_printed false false) hread fun l hl =>
      PatchLine.not_isReset_of_isShown (hshown l hl)
  have htake : (hunkLines header last).take 4 = [['z']] ++ (header.printed false false).toList ::
    [[' ', 'a'], [' ', 'b']] := rfl
  have htwo : PatchLine.shownCount [[' ', 'a'], [' ', 'b']] = 2 :=
    PatchLine.shownCount_of_forall hshown
  rw [htake, hcounts.cursor_eq, htwo]
  push_cast
  omega

theorem isAnswered_hunkLines (h : header.IsPrintable false false)
    (hlast : ∃ answer, HunkHeader.readL last = .ok answer) :
    IsAnswered (hunkLines header last) := by
  have hread : HunkHeader.readL (header.printed false false).toList = .ok (.ok header) :=
    HunkHeader.read_printed h
  simp only [IsAnswered, hunkLines, List.forall_mem_cons, List.not_mem_nil, false_imp_iff,
    implies_true, and_true]
  exact ⟨fun hz => absurd hz (by decide), fun _ => ⟨_, hread⟩, fun ha => absurd ha (by decide),
    fun hb => absurd hb (by decide), fun _ => hlast⟩

/-- A malformed header after the hunk is warned of with the number of the second line. -/
theorem isWritable_of_isReportable (h : header.IsPrintable false false) (hlast : IsMalformed last)
    (hreportable : IsReportable (hunkLines header last)) : IsWritable (header.newStart + 1) :=
  hreportable ((hunkLines header last).take 4) last [] _ rfl hlast
    (PatchLine.countsTo_iff.2 (cursor_hunkLines h))

end HunkLines

/-- A header whose first line has the last number that can be written. -/
def lastHeader : HunkHeader where
  oldStart := 1
  oldCount := 1
  newStart := 10 ^ Numeral.digitLimit - 1
  newCount := 1
  heading := "f"

theorem isPrintable_lastHeader : lastHeader.IsPrintable false false := by
  have hone : 1 < 10 ^ Numeral.digitLimit := Nat.one_lt_pow (by decide) (by decide)
  refine ⟨?_, fun _ => rfl, fun _ => rfl, by decide +kernel⟩
  simp only [lastHeader, List.forall_mem_cons, List.not_mem_nil, false_imp_iff, implies_true,
    and_true]
  omega

theorem not_isWritable_lastHeader : ¬ IsWritable (lastHeader.newStart + 1) := by
  have hpos : 0 < 10 ^ Numeral.digitLimit := Nat.pow_pos (by decide)
  have hnext : lastHeader.newStart + 1 = 10 ^ Numeral.digitLimit := Nat.sub_add_cancel hpos
  have hlength : IsWritable (lastHeader.newStart + 1) ↔
      lastHeader.newStart + 1 < 10 ^ Numeral.digitLimit :=
    Nat.length_toDigits_le_iff (by decide) (by decide)
  rw [hlength, hnext]
  exact Nat.lt_irrefl _

/-- A header that is never closed. -/
def unclosed : List Char := "@@ x".toList

theorem readL_unclosed : HunkHeader.readL unclosed = .ok (.error .missingClosing) := by
  decide +kernel

theorem isMalformed_unclosed : IsMalformed unclosed := by
  refine ⟨by decide +kernel, fun header hread => ?_⟩
  rw [readL_unclosed] at hread
  cases hread

theorem physicalLines_unclosed :
    physicalLines (hunkPatch lastHeader unclosed) = hunkLines lastHeader unclosed :=
  physicalLines_hunkPatch (by decide) (by decide) (by decide)

theorem isAnswered_unclosed : IsAnswered (physicalLines (hunkPatch lastHeader unclosed)) := by
  rw [physicalLines_unclosed]
  exact isAnswered_hunkLines isPrintable_lastHeader ⟨_, readL_unclosed⟩

/-- Before the header that is never closed, the lines have come to a number that cannot be
written. -/
theorem not_exists_map_unclosed :
    ¬ ∃ map, (ofPatch (hunkPatch lastHeader unclosed)).outcome.1 = .ok map := by
  rintro ⟨map, hmap⟩
  have hreportable := isReportable_of_outcome hmap
  rw [physicalLines_unclosed] at hreportable
  exact not_isWritable_lastHeader
    (isWritable_of_isReportable isPrintable_lastHeader isMalformed_unclosed hreportable)

/-- A patch that shows line 1 and whose headers have answers, but without a map. -/
theorem ofPatch_overLimit :
    IsAnswered (physicalLines (hunkPatch lastHeader unclosed)) ∧
    NumberedAt (physicalLines (hunkPatch lastHeader unclosed)) 1 1 ∧
    ¬ ∃ map, (ofPatch (hunkPatch lastHeader unclosed)).outcome.1 = .ok map := by
  refine ⟨isAnswered_unclosed, ?_, not_exists_map_unclosed⟩
  rw [physicalLines_unclosed]
  have hshown : PatchLine.IsShown ['z'] := PatchLine.isShown_cons_iff.2 (by decide)
  have hone : PatchLine.shownCount [['z']] = 1 :=
    PatchLine.shownCount_of_forall (List.forall_mem_singleton.2 hshown)
  have hfirst : CountsTo ([] ++ [['z']]) (PatchLine.shownCount [['z']]) :=
    .fromStart (List.forall_mem_singleton.2 (PatchLine.not_isReset_of_isShown hshown))
  rw [hone] at hfirst
  exact ⟨[], ['z'], _, rfl, hshown, rfl, hfirst⟩

end PositionMap

end InlineReview
