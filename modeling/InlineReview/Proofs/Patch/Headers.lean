import InlineReview.Proofs.Patch.Diff
import InlineReview.Proofs.Patch.HeaderLanguage

/-!
# Reading the lines of a diff

The header of a hunk is a line of the language of headers, so that it is read back as the ranges and
the heading from which it was written, and every line of a body is classified by its first
character.

* `LineRange.says_digits` — the digits of a range stand for its first line and its size.
* `HunkHeader.readL_header` — the header of a hunk is read back.
* `PatchLine.ofLines_lines` — how the lines of a diff are classified.
-/

namespace InlineReview

open Text

/-! ## Ranges -/

namespace LineRange

/-- The digits of a range. -/
def digits (r : LineRange) : HunkHeader.RangeDigits :=
  (r.start.digits, r.count.map AsciiNumber.digits)

theorem written_digits (sign : Char) (r : LineRange) : r.digits.written sign = r.written sign := by
  cases hcount : r.count <;> simp [digits, HunkHeader.RangeDigits.written, written, hcount]

theorem isDigits_digits (r : LineRange) : r.digits.IsDigits := by
  have hnumber : ∀ n : AsciiNumber, allDigits n.digits = true := fun n =>
    Numeral.allDigits_of_isAsciiDigit n.all_digits n.ne_nil
  refine ⟨hnumber r.start, fun ds hds => ?_⟩
  obtain ⟨n, -, rfl⟩ := Option.map_eq_some_iff.1 hds
  exact hnumber n

theorem isReadable_digits (r : LineRange) : r.digits.IsReadable := by
  have hnumber : ∀ n : AsciiNumber, Numeral.IsReadable n.digits := fun n =>
    Numeral.isReadable_of_isAsciiDigit n.all_digits n.length_le
  refine ⟨hnumber r.start, fun ds hds => ?_⟩
  obtain ⟨n, -, rfl⟩ := Option.map_eq_some_iff.1 hds
  exact hnumber n

theorem says_digits (r : LineRange) : r.digits.Says r.start.value r.size := by
  have hnumber : ∀ n : AsciiNumber, Numeral.HasValue n.digits n.value := fun n =>
    Numeral.hasValue_of_isAsciiDigit n.all_digits
  refine ⟨hnumber r.start, ?_⟩
  cases hcount : r.count with
  | none => simp [digits, size, hcount]
  | some n => simpa [digits, size, hcount] using hnumber n

end LineRange

/-! ## Headers -/

namespace Hunk

/-- The header of a hunk, part by part. -/
def form (h : Hunk) : HunkHeader.Form :=
  .spaced h.old.digits h.new.digits h.headerEnd h.old.isDigits_digits h.new.isDigits_digits

theorem written_form (h : Hunk) : h.form.written = h.header := by
  simp [HunkHeader.Form.written, HunkHeader.Form.ranges, form, HunkHeader.Form.spaced,
    LineRange.written_digits, HunkHeader.marker, header]

end Hunk

namespace HunkHeader

/-- What the header of a hunk says. -/
def ofHunk (h : Hunk) : HunkHeader where
  oldStart := h.old.start.value
  oldCount := h.old.size
  newStart := h.new.start.value
  newCount := h.new.size
  heading := String.ofList (trimL ((h.heading.map Subtype.val).getD []))

theorem trimL_headerEnd (h : Hunk) :
    trimL h.headerEnd = trimL ((h.heading.map Subtype.val).getD []) := by
  cases hheading : h.heading with
  | none => simp [Hunk.headerEnd, hheading]
  | some text =>
    simp only [Hunk.headerEnd, hheading, Option.map_some, Option.getD_some]
    exact trimL_blank_cons (by decide) text.val

theorem says_ofHunk (h : Hunk) : h.form.Says (ofHunk h) where
  old := h.old.says_digits
  new := h.new.says_digits
  heading := by
    rw [trim, String.toList_ofList, Hunk.form, Form.spaced, trimL_headerEnd]
    rfl

/-- The header of a hunk is read back. -/
theorem readL_header (h : Hunk) : readL h.header = .ok (.ok (ofHunk h)) := by
  rw [← h.written_form]
  exact h.form.readL_written_eq_header_iff.2
    ⟨h.old.isReadable_digits, h.new.isReadable_digits, says_ofHunk h⟩

end HunkHeader

/-! ## The lines of a hunk -/

namespace PatchLine

/-- What a line of a hunk's body does to the count of lines. -/
def ofDiffLine (l : DiffLine) : PatchLine := if l.shown?.isSome then .keyed else .inert

theorem ofLine_header (h : Hunk) : ofLine h.header = .ok (.reset h.new.start.value) := by
  have hmark : startsWith HunkHeader.marker h.header = true := by
    simp [startsWith, Hunk.header, HunkHeader.marker, dropLead?]
  unfold ofLine
  rw [if_pos hmark, HunkHeader.readL_header]
  rfl

theorem ofLine_written (l : DiffLine) : ofLine l.written = .ok (ofDiffLine l) := by
  cases l with
  | context text => rfl
  | added text => rfl
  | removed text => rfl
  | unended => rfl

/-- How the lines of a hunk are classified. -/
def ofHunk (h : Hunk) : List PatchLine := .reset h.new.start.value :: h.body.map ofDiffLine

theorem ofLines_append {ls ms : List (List Char)} {ps qs : List PatchLine}
    (hls : ofLines ls = (ps, none)) (hms : ofLines ms = (qs, none)) :
    ofLines (ls ++ ms) = (ps ++ qs, none) := by
  induction ls generalizing ps with
  | nil =>
    obtain ⟨rfl, -⟩ := Prod.mk.inj hls
    exact hms
  | cons l ls ih =>
    cases hl : ofLine l with
    | error fault => simp [ofLines, hl] at hls
    | ok p =>
      simp only [ofLines, hl, Prod.mk.injEq] at hls
      obtain ⟨rfl, hfault⟩ := hls
      have hsplit : ofLines ls = ((ofLines ls).1, none) := Prod.ext rfl hfault
      simp [ofLines, hl, ih hsplit]

theorem ofLines_hunk (h : Hunk) : ofLines h.lines = (ofHunk h, none) := by
  have hbody : ∀ body : List DiffLine,
      ofLines (body.map DiffLine.written) = (body.map ofDiffLine, none) := by
    intro body
    induction body with
    | nil => rfl
    | cons l body ih => simp [ofLines, ofLine_written, ih]
  simp [Hunk.lines, ofHunk, ofLines, ofLine_header, hbody]

/-- How the lines of a diff are classified. -/
theorem ofLines_lines (hunks : List Hunk) :
    ofLines (Diff.lines hunks) = (hunks.flatMap ofHunk, none) := by
  induction hunks with
  | nil => rfl
  | cons h hunks ih => exact ofLines_append (ofLines_hunk h) ih

theorem malformed_not_mem_ofHunk (hunks : List Hunk) (why : HunkHeader.Malformed) :
    .malformed why ∉ hunks.flatMap ofHunk := by
  have hline : ∀ l : DiffLine, ofDiffLine l ≠ .malformed why := by
    intro l
    rw [ofDiffLine]
    split <;> simp
  simp [ofHunk, hline]

end PatchLine

end InlineReview
