import InlineReview.Proofs.Patch.Cursor
import InlineReview.Proofs.Patch.DiffPositions
import InlineReview.Proofs.Text.Returns
import InlineReview.Review.Excerpt

/-!
# What an excerpt shows

The line around which an excerpt is taken is the line of the patch on which its comment is placed:
counting the lines of a file and following the counts of a patch onto that file lead to the same
text.

* `excerptLines_eq` — an excerpt holds the neighbours of a line as far as there are any.
* `PositionMap.shows_of_position?` — the place of a line in a diff shows that line.
* `excerpt_at_position` — an excerpt shows what stands at the place of its line.
-/

namespace InlineReview

open Text

/-! ## Neighbours -/

/-- The elements from an index on, as far as there are so many. -/
theorem take_drop_eq_filterMap {α : Type} (xs : List α) (start count : Nat) :
    (xs.drop start).take count = (List.range' start count).filterMap (xs[·]?) := by
  induction count generalizing start with
  | zero => simp
  | succ count ih =>
    rw [List.range'_succ, List.filterMap_cons]
    by_cases hstart : start < xs.length
    · rw [List.drop_eq_getElem_cons hstart, List.take_succ_cons, ih (start + 1),
        List.getElem?_eq_getElem hstart]
    · have hend : xs.length ≤ start := Nat.not_lt.1 hstart
      have hrest := ih (start + 1)
      rw [List.drop_eq_nil_of_le (by omega), List.take_nil] at hrest
      rw [List.drop_eq_nil_of_le hend, List.take_nil, List.getElem?_eq_none hend, ← hrest]

/-- The numbers of a line and its neighbours. -/
def neighbours (line : Nat) : List Nat := [line - 1, line, line + 1]

/-- An excerpt holds a line and its neighbours, as far as there are such lines. -/
theorem excerptLines_eq (ls : List (List Char)) (line : Nat) :
    excerptLines ls (line + 1 : Nat) = (neighbours (line + 1)).filterMap (lineAt? ls) := by
  cases line with
  | zero =>
    have hwindow : excerptLines ls (0 + 1 : Nat) = (ls.drop 0).take 2 := rfl
    rw [hwindow, take_drop_eq_filterMap]
    rfl
  | succ k =>
    have hstart : (((k + 1 + 1 : Nat) : Int) - 2).toNat = k := by omega
    have hstop : (((k + 1 + 1 : Nat) : Int) + 1).toNat = k + 3 := by omega
    have hpositive : ¬ ((k + 1 + 1 : Nat) : Int) + 1 < 0 := by omega
    have hwindow : excerptLines ls (k + 1 + 1 : Nat) = (ls.drop k).take 3 := by
      rw [excerptLines, window, if_neg hpositive, hstart, hstop, List.drop_take,
        Nat.add_sub_cancel_left]
    rw [hwindow, take_drop_eq_filterMap]
    rfl

/-- The line around which an excerpt is taken comes second in it, and first if it is the first line
of its file. -/
theorem getElem?_neighbours {ls : List (List Char)} {line : Nat} {text : List Char}
    (h : lineAt? ls line = some text) :
    ((neighbours line).filterMap (lineAt? ls))[if line = 1 then 0 else 1]? = some text := by
  match line, h with
  | 1, h =>
    have hnone : lineAt? ls 0 = none := rfl
    simp [neighbours, hnone, h]
  | k + 2, h =>
    have hlength : k + 1 < ls.length := (List.getElem?_eq_some_iff.1 h).1
    have hbefore : lineAt? ls (k + 1) = some ls[k] := List.getElem?_eq_getElem (by omega)
    have hindex : (if k + 2 = 1 then 0 else 1) = 1 := if_neg (by omega)
    have hpred : k + 2 - 1 = k + 1 := rfl
    rw [hindex, neighbours, hpred, List.filterMap_cons, hbefore, List.filterMap_cons, h]
    rfl

theorem lineAt?_map (f : List Char → List Char) (ls : List (List Char)) (line : Nat) :
    lineAt? (ls.map f) line = (lineAt? ls line).map f := by
  cases line with
  | zero => rfl
  | succ i => exact List.getElem?_map

/-! ## Places in a diff -/

namespace PositionMap

variable {file : List (List Char)} {hunks : List Hunk}

theorem text_ne_empty (hne : hunks ≠ []) (isEnded : Bool) : Diff.text hunks isEnded ≠ "" := by
  intro hempty
  have hsplit := splitL_text hne isEnded
  rw [hempty] at hsplit
  have hmem : [] ∈ Diff.lines hunks := by
    rw [← hsplit]
    decide
  exact ne_nil_of_mem_lines hmem rfl

/-- A diff is read without a complaint. -/
theorem outcome_ofPatch_text (hne : hunks ≠ []) (isEnded : Bool) :
    (ofPatch (Diff.text hunks isEnded)).outcome =
      (.ok (ofLines (hunks.flatMap PatchLine.ofHunk)), []) := by
  have hlines := PatchLine.ofLines_lines hunks
  rw [← splitL_text hne isEnded] at hlines
  exact ofPatch_of_ofLines (text_ne_empty hne isEnded) hlines
    (warnings_of_forall (PatchLine.malformed_not_mem_ofHunk hunks) 1 1)

theorem mem_assignments_of_position? {ls : List PatchLine} {line : Int} {place : Nat}
    (h : (ofLines ls).position? line = some place) :
    0 ≤ line ∧ (line.toNat, place) ∈ assignments 1 1 ls := by
  unfold position? at h
  by_cases hneg : line < 0
  · rw [if_pos hneg] at h
    cases h
  · rw [if_neg hneg, ofLines, Assoc.get?_ofList_iff (assignments_places 1 1 ls)] at h
    exact ⟨Int.not_lt.1 hneg, h.1⟩

/-- The place of a line in a diff onto a file shows that line of the file. -/
theorem shows_of_position? (h : IsDiffOnto file hunks) {line : Int} {place : Nat}
    (hplace : (ofLines (hunks.flatMap PatchLine.ofHunk)).position? line = some place) :
    ∃ i text, line = (i + 1 : Nat) ∧ lineAt? file (i + 1) = some text ∧
      ∃ sign, lineAt? (Diff.lines hunks) place = some (sign :: text) := by
  obtain ⟨hpositive, hmem⟩ := mem_assignments_of_position? hplace
  obtain ⟨text, hfile, hshown⟩ := shows_of_mem_assignments h.shows hmem
  have hfirst : 1 ≤ place := le_of_mem_assignments hmem
  obtain ⟨j, rfl⟩ : ∃ j, place = j + 1 := ⟨place - 1, by omega⟩
  obtain ⟨i, hi⟩ : ∃ i, line.toNat = i + 1 := by
    cases hline : line.toNat with
    | zero =>
      rw [hline] at hfile
      cases hfile
    | succ i => exact ⟨i, rfl⟩
  rw [hi] at hfile
  refine ⟨i, text, by omega, hfile, ?_⟩
  rcases hshown with hcontext | hadded
  · exact ⟨' ', hcontext⟩
  · exact ⟨'+', hadded⟩

end PositionMap

/-! ## Excerpts of a file onto which there is a diff -/

/-- The lines of a file: those between newlines, without the carriage returns at their ends. -/
def fileLines (s : List Char) : List (List Char) := (linesL s).map withoutReturn

theorem newline_not_mem_fileLines {s l : List Char} (h : l ∈ fileLines s) : '\n' ∉ l := by
  obtain ⟨k, hk, rfl⟩ := List.mem_map.1 h
  have hfree : '\n' ∉ k := not_mem_of_mem_pieces hk
  unfold withoutReturn
  split
  · intro hmem
    exact hfree (List.dropLast_subset k hmem)
  · exact hfree

theorem linesL_unlinesL {ls : List (List Char)} (hne : ls ≠ []) (h : ∀ l ∈ ls, '\n' ∉ l) :
    linesL (unlinesL ls) = ls :=
  pieces_joinWith hne h

/-- The excerpt around a line of a file holds that line and its neighbours. -/
theorem linesL_excerpt {store : FileStore} {path : Path} {octets : List UInt8} {s : List Char}
    (hoctets : store.octets path = .ok octets) (hdecode : Utf8.decode octets = .ok s)
    (hreturns : ReturnsEndLines s) {i : Nat} {text : List Char}
    (hline : lineAt? (fileLines s) (i + 1) = some text) :
    ∃ shown, excerpt store path (i + 1 : Nat) = .ok shown ∧
      linesL shown.toList = (neighbours (i + 1)).filterMap (lineAt? (fileLines s)) := by
  have hread : store.textReplacing path = .ok (unifyNewlines s) := by
    rw [FileStore.textReplacing, hoctets]
    exact congrArg (fun t => Except.ok (unifyNewlines t)) (Utf8.decodeReplacing_of_decode hdecode)
  have hlines : linesL (unifyNewlines s) = fileLines s := linesL_unifyNewlines hreturns
  refine ⟨String.ofList (unlinesL (excerptLines (fileLines s) (i + 1 : Nat))), ?_, ?_⟩
  · rw [excerpt, hread, ← hlines]
    rfl
  · rw [String.toList_ofList, excerptLines_eq]
    apply linesL_unlinesL
    · intro hnil
      have hsome := getElem?_neighbours hline
      rw [hnil] at hsome
      cases hsome
    · intro l hl
      obtain ⟨n, -, hn⟩ := List.mem_filterMap.1 hl
      cases n with
      | zero => cases hn
      | succ n => exact newline_not_mem_fileLines (List.mem_of_getElem? hn)

/-- Where a file can be read and its carriage returns stand before newlines, the map of a diff onto
its lines gives a line a place only if there is such a line; the excerpt around it holds it and its
neighbours, it comes second in it, or first if it is the first one, and at its place in the patch
it stands behind a sign. -/
theorem excerpt_at_position {store : FileStore} {path : Path} {octets : List UInt8}
    {s : List Char} {hunks : List Hunk} (hoctets : store.octets path = .ok octets)
    (hdecode : Utf8.decode octets = .ok s) (hreturns : ReturnsEndLines s)
    (hdiff : IsDiffOnto (linesL s) hunks) (isEnded : Bool) :
    ∃ map, (PositionMap.ofPatch (Diff.text hunks isEnded)).outcome = (.ok map, []) ∧
      ∀ (line : Int) (place : Nat), map.position? line = some place →
        ∃ shown text sign rest, excerpt store path line = .ok shown ∧
          linesL shown.toList = (neighbours line.toNat).filterMap (lineAt? (fileLines s)) ∧
          lineAt? (fileLines s) line.toNat = some text ∧
          (linesL shown.toList)[if line = 1 then 0 else 1]? = some text ∧
          lineAt? (PatchLine.splitL (Diff.text hunks isEnded).toList) place =
            some (sign :: rest) ∧
          text = withoutReturn rest := by
  refine ⟨_, PositionMap.outcome_ofPatch_text hdiff.ne_nil isEnded, ?_⟩
  intro line place hplace
  obtain ⟨i, rest, rfl, hfile, sign, hpatch⟩ := PositionMap.shows_of_position? hdiff hplace
  have hline : lineAt? (fileLines s) (i + 1) = some (withoutReturn rest) := by
    rw [fileLines, lineAt?_map, hfile, Option.map_some]
  obtain ⟨shown, hshown, hlines⟩ := linesL_excerpt hoctets hdecode hreturns hline
  have hfirst : ((i + 1 : Nat) : Int) = 1 ↔ i + 1 = 1 := by omega
  refine ⟨shown, withoutReturn rest, sign, rest, hshown, hlines, hline, ?_, ?_, rfl⟩
  · rw [hlines, if_congr hfirst rfl rfl]
    exact getElem?_neighbours hline
  · rw [PositionMap.splitL_text hdiff.ne_nil isEnded]
    exact hpatch

/-- Two lines of a file; the first ends in a carriage return and the second in a newline. -/
def returnText : List Char := ['a', '\r', '\n', 'é', '\n']

def returnPath : Path := Path.ofText "src/a.js"

def returnStore : FileStore := [(returnPath.place, .content (Utf8.encode returnText))]

/-- A diff that adds the first line. -/
def returnDiff : List Hunk :=
  let one : AsciiNumber :=
    { digits := ['1'], ne_nil := by simp, all_digits := by simp [isAsciiDigit]
      length_le := by simp [Numeral.digitLimit] }
  let two : AsciiNumber :=
    { digits := ['2'], ne_nil := by simp, all_digits := by simp [isAsciiDigit]
      length_le := by simp [Numeral.digitLimit] }
  [ { old := { start := one, count := none }
      new := { start := one, count := some two }
      heading := none
      body := [.added ⟨['a', '\r'], by simp⟩, .context ⟨['é'], by simp⟩] } ]

theorem returnText_returnsEndLines : ReturnsEndLines returnText := by
  intro before after h
  match before, h with
  | [_], h =>
    obtain ⟨-, rfl⟩ : _ ∧ after = ['\n', 'é', '\n'] := by simpa [returnText, eq_comm] using h
    rfl
  | _ :: _ :: before, h =>
    obtain ⟨-, -, hrest⟩ : _ ∧ _ ∧ ['\n', 'é', '\n'] = before ++ '\r' :: after := by
      simpa [returnText] using h
    have hreturn : '\r' ∈ ['\n', 'é', '\n'] := by simp [hrest]
    exact absurd hreturn (by decide)

theorem returnDiff_isDiffOnto : IsDiffOnto (linesL returnText) returnDiff where
  ne_nil := by decide
  ascending := by decide
  shows := by decide

/-- The line that the diff adds has the second place, behind the header.  The excerpt around it holds
it as its first line, without the carriage return that the patch shows. -/
theorem excerpt_returnStore :
    returnStore.octets returnPath = .ok (Utf8.encode returnText) ∧
      Utf8.decode (Utf8.encode returnText) = .ok returnText ∧ ReturnsEndLines returnText ∧
      IsDiffOnto (linesL returnText) returnDiff ∧
      ∃ map, (PositionMap.ofPatch (Diff.text returnDiff true)).outcome = (.ok map, []) ∧
        map.position? 1 = some 2 ∧ excerpt returnStore returnPath 1 = .ok "a\né" ∧
        lineAt? (fileLines returnText) 1 = some ['a'] ∧
        (linesL "a\né".toList)[0]? = some ['a'] ∧
        lineAt? (PatchLine.splitL (Diff.text returnDiff true).toList) 2 = some ['+', 'a', '\r'] := by
  have hoctets : returnStore.octets returnPath = .ok (Utf8.encode returnText) := by decide
  have hdecode : Utf8.decode (Utf8.encode returnText) = .ok returnText := by decide
  obtain ⟨map, houtcome, hplaces⟩ :=
    excerpt_at_position hoctets hdecode returnText_returnsEndLines returnDiff_isDiffOnto true
  have hplace : map.position? 1 = some 2 := by
    have htold : ((PositionMap.ofPatch (Diff.text returnDiff true)).outcome.1.toOption.bind
        fun map => map.position? 1) = some 2 := by decide +kernel
    rwa [houtcome] at htold
  have hshown : excerpt returnStore returnPath 1 = .ok "a\né" := by decide +kernel
  have hpatch : lineAt? (PatchLine.splitL (Diff.text returnDiff true).toList) 2 =
      some ['+', 'a', '\r'] := by decide +kernel
  obtain ⟨shown, text, sign, rest, hexcerpt, -, hline, hfirst, hsigned, rfl⟩ := hplaces 1 2 hplace
  obtain rfl : "a\né" = shown := Except.ok.inj (hshown.symm.trans hexcerpt)
  obtain ⟨-, rfl⟩ := List.cons.inj (Option.some.inj (hpatch.symm.trans hsigned))
  exact ⟨hoctets, hdecode, returnText_returnsEndLines, returnDiff_isDiffOnto, map, houtcome, hplace,
    hshown, hline, hfirst, hpatch⟩

end InlineReview
