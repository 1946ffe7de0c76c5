import InlineReview.Proofs.Patch.HeaderText
import InlineReview.Proofs.Text.Ascii
import InlineReview.Proofs.Text.Words
import Mathlib.Data.List.Induction
import Mathlib.Data.Nat.Digits.Defs

/-!
# The language of hunk headers

A line is the header of a hunk exactly if it can be written as two marks around an old and a new
range, with blanks between the ranges and perhaps around them.  A range is a sign, a run of digits
and perhaps a comma and another run; behind the second mark anything may follow.

The header says the values of the runs, and what follows the second mark without the blanks around
it.  There is never more than one way to write a line so, and a header that is printed is read back.

* `Numeral.read_eq_ok_iff` — the value of a run of digits.
* `Form.readL_written` — how a line of the language is read.
* `exists_form_of_readL` — only lines of the language are headers.
* `Form.eq_of_written_eq` — a line has one form.
* `read_language` — all of this, with the headers that are printed.
-/

namespace InlineReview

open Text

/-! ## Values -/

namespace Numeral

/-- Does a run of decimal digits of any script, the most significant first, stand for a number? -/
def HasValue (ds : List Char) (n : Nat) : Prop :=
  ∃ vs : List Nat, ds.map digitValue? = vs.map some ∧ n = Nat.ofDigits 10 vs.reverse

theorem ofDigits_eq (vs : List Nat) : ofDigits vs = Nat.ofDigits 10 vs.reverse := by
  induction vs using List.reverseRecOn with
  | nil => rfl
  | append_singleton vs d ih =>
    have hstep : ofDigits (vs ++ [d]) = ofDigits vs * 10 + d := by
      simp [ofDigits]
    rw [hstep, ih, List.reverse_append, List.reverse_singleton, List.singleton_append,
      Nat.ofDigits_cons]
    omega

theorem leadingDigits_eq_iff {ds : List Char} {vs : List Nat} :
    leadingDigits ds = (vs, []) ↔ ds.map digitValue? = vs.map some := by
  induction ds generalizing vs with
  | nil =>
    cases vs with
    | nil => simp [leadingDigits]
    | cons v vs => simp [leadingDigits]
  | cons c ds ih =>
    cases hc : digitValue? c with
    | none => cases vs <;> simp [leadingDigits, hc]
    | some d =>
      have hsplit : leadingDigits (c :: ds) =
          (d :: (leadingDigits ds).1, (leadingDigits ds).2) := by
        rw [leadingDigits, hc]
      rw [hsplit]
      cases vs with
      | nil => simp
      | cons v vs =>
        have hrest : leadingDigits ds = (vs, []) ↔ ds.map digitValue? = vs.map some := ih
        rw [Prod.ext_iff] at hrest
        simp only [Prod.mk.injEq, List.cons.injEq, List.map_cons, hc, Option.some.injEq, ← hrest,
          and_assoc]

theorem HasValue.unique {ds : List Char} {m n : Nat} (hm : HasValue ds m) (hn : HasValue ds n) :
    m = n := by
  obtain ⟨vs, hvs, rfl⟩ := hm
  obtain ⟨ws, hws, rfl⟩ := hn
  have hsame : vs.map some = ws.map some := hvs.symm.trans hws
  have hvalues : vs = ws := (List.map_inj_right fun _ _ => Option.some.inj).1 hsame
  rw [hvalues]

/-- A run of characters is read as its value, if it can be read. -/
theorem read_eq_ok_iff {ds : List Char} (hne : ds ≠ []) {n : Nat} :
    read ds = .ok n ↔ IsReadable ds ∧ HasValue ds n := by
  have hvalue : ∀ m, read ds = .ok m → HasValue ds m := by
    intro m h
    rcases hsplit : leadingDigits ds with ⟨vs, rest⟩
    simp only [read, hsplit] at h
    split at h
    · cases h
    · split at h
      · rename_i hend
        have hrest : rest = [] := by
          rw [Bool.and_eq_true] at hend
          simpa using hend.1
        rw [hrest] at hsplit
        exact ⟨vs, leadingDigits_eq_iff.1 hsplit, by rw [← Except.ok.inj h, ofDigits_eq]⟩
      · cases h
  constructor
  · intro h
    exact ⟨(exists_read_iff hne).1 ⟨n, h⟩, hvalue n h⟩
  · rintro ⟨hreadable, hn⟩
    obtain ⟨m, hm⟩ := (exists_read_iff hne).2 hreadable
    rw [hm, (hvalue m hm).unique hn]

/-! ### ASCII digits -/

section Ascii

variable {ds : List Char} (hds : ∀ c ∈ ds, isAsciiDigit c = true)

include hds

theorem allDigits_of_isAsciiDigit (hne : ds ≠ []) : allDigits ds = true := by
  have hall : ds.all isDigit = true :=
    List.all_eq_true.2 fun c hc => isDigit_of_isAsciiDigit (hds c hc)
  simp [allDigits, hne, hall]

theorem hasValue_of_isAsciiDigit : HasValue ds (ofDigits (ds.map (·.toNat - 48))) := by
  refine ⟨ds.map (·.toNat - 48), ?_, by rw [ofDigits_eq]⟩
  rw [List.map_map]
  exact List.map_congr_left fun c hc => digitValue?_of_isAsciiDigit (hds c hc)

theorem isReadable_of_isAsciiDigit (hlen : ds.length ≤ digitLimit) : IsReadable ds := by
  refine ⟨hlen, fun c hc => ?_⟩
  rw [digitValue?_of_isAsciiDigit (hds c hc)]
  rfl

end Ascii

/-! ### Numbers in base ten -/

theorem isAsciiDigit_digits (n : Nat) : ∀ c ∈ digits n, isAsciiDigit c = true := by
  intro c hc
  have hdigit : c.isDigit = true := Nat.isDigit_of_mem_toDigits (by decide) (by decide) hc
  rw [Char.isDigit, Bool.and_eq_true, decide_eq_true_eq, decide_eq_true_eq] at hdigit
  exact isAsciiDigit_iff.2
    ⟨UInt32.le_iff_toNat_le.1 hdigit.1, UInt32.le_iff_toNat_le.1 hdigit.2⟩

theorem allDigits_digits (n : Nat) : allDigits (digits n) = true :=
  allDigits_of_isAsciiDigit (isAsciiDigit_digits n) Nat.toDigits_ne_nil

/-- The digits of a number have that number as their value. -/
theorem hasValue_digits (n : Nat) : HasValue (digits n) n := by
  have hfold : ofDigits ((digits n).map (·.toNat - 48)) = Nat.ofDigitChars 10 (digits n) 0 := by
    simp [ofDigits, Nat.ofDigitChars_eq_foldl, List.foldl_map, Nat.mul_comm]
  have hvalue := hasValue_of_isAsciiDigit (isAsciiDigit_digits n)
  have hn : Nat.ofDigitChars 10 (digits n) 0 = n := Nat.ofDigitChars_ten_toDigits
  rwa [hfold, hn] at hvalue

/-- The digits of a number can be read if the number is small enough to have no more than a numeral
may. -/
theorem isReadable_digits {n : Nat} (h : n < 10 ^ digitLimit) : IsReadable (digits n) :=
  isReadable_of_isAsciiDigit (isAsciiDigit_digits n)
    ((Nat.length_toDigits_le_iff (by decide) (by decide)).2 h)

end Numeral

namespace HunkHeader

/-! ## Ranges -/

namespace RangeDigits

/-- A range as it is written behind a sign. -/
def written (sign : Char) (range : RangeDigits) : List Char :=
  sign :: (range.1 ++ (range.2.map (',' :: ·)).getD [])

/-- Are the runs of a range made of digits? -/
def IsDigits (range : RangeDigits) : Prop :=
  allDigits range.1 = true ∧ ∀ ds ∈ range.2, allDigits ds = true

/-- Does a range stand for a first line and a count?  A count that is left out is one. -/
def Says (range : RangeDigits) (start count : Nat) : Prop :=
  Numeral.HasValue range.1 start ∧
    match range.2 with
    | none => count = 1
    | some ds => Numeral.HasValue ds count

end RangeDigits

section Range

variable {range : RangeDigits}

theorem isRange_written (sign : Char) (h : range.IsDigits) :
    IsRange sign range (range.written sign) where
  written := rfl
  start := h.1
  count := h.2

theorem range_eq_of_written_eq {sign : Char} {range' : RangeDigits} (h : range.IsDigits)
    (h' : range'.IsDigits) (heq : range.written sign = range'.written sign) : range = range' := by
  have hsplit := splitRange?_eq_some_iff.2 (isRange_written sign h)
  rw [heq, splitRange?_eq_some_iff.2 (isRange_written sign h')] at hsplit
  exact (Option.some.inj hsplit).symm

theorem rangeValue_eq_ok_iff_read {start count : Nat} :
    rangeValue range = .ok (start, count) ↔ Numeral.read range.1 = .ok start ∧
      match range.2 with
      | none => count = 1
      | some ds => Numeral.read ds = .ok count := by
  obtain ⟨first, rest⟩ := range
  cases hfirst : Numeral.read first with
  | error fault =>
    simp only [rangeValue, hfirst]
    simp [bind, Except.bind]
  | ok n =>
    cases rest with
    | none =>
      have hvalue : rangeValue (first, none) = .ok (n, 1) := by
        simp only [rangeValue, hfirst]
        rfl
      simp [hvalue, eq_comm]
    | some ds =>
      have hvalue : rangeValue (first, some ds) = (Numeral.read ds).map fun m => (n, m) := by
        simp only [rangeValue, hfirst]
        cases Numeral.read ds <;> rfl
      rw [hvalue]
      cases hds : Numeral.read ds <;> simp [Except.map, hds]

/-- A range has the numbers that it stands for, if its digits can be read. -/
theorem rangeValue_eq_ok_iff (h : range.IsDigits) {start count : Nat} :
    rangeValue range = .ok (start, count) ↔ range.IsReadable ∧ range.Says start count := by
  obtain ⟨first, rest⟩ := range
  rw [rangeValue_eq_ok_iff_read, Numeral.read_eq_ok_iff (ne_nil_of_allDigits h.1)]
  cases rest with
  | none => simp [RangeDigits.IsReadable, RangeDigits.Says, and_assoc]
  | some ds =>
    simp only [Numeral.read_eq_ok_iff (ne_nil_of_allDigits (h.2 ds rfl))]
    simp [RangeDigits.IsReadable, RangeDigits.Says, and_assoc, and_left_comm]

/-- A character that is no digit, no comma and not the sign stands nowhere in a range. -/
theorem not_mem_written {sign c : Char} (hsign : c ≠ sign) (hcomma : c ≠ ',')
    (hdigit : isDigit c = false) (h : range.IsDigits) : c ∉ range.written sign := by
  have hrun : ∀ ds : List Char, allDigits ds = true → c ∉ ds := by
    intro ds hds hc
    rw [allDigits, Bool.and_eq_true, List.all_eq_true] at hds
    rw [hds.2 c hc] at hdigit
    cases hdigit
  obtain ⟨first, rest⟩ := range
  rw [RangeDigits.written, List.mem_cons, List.mem_append]
  rintro (rfl | hc | hc)
  · exact hsign rfl
  · exact hrun first h.1 hc
  · cases rest with
    | none => simp at hc
    | some ds =>
      rcases List.mem_cons.1 hc with rfl | hc
      · exact hcomma rfl
      · exact hrun ds (h.2 ds rfl) hc

/-- A sign and a range are one word. -/
theorem isWord_written {sign : Char} (hsign : isBlank sign = false) (h : range.IsDigits) :
    IsWord (range.written sign) := by
  refine ⟨by simp [RangeDigits.written], fun c hc => ?_⟩
  by_cases hblank : isBlank c = true
  · have hne : c ≠ sign := fun heq => by simp [heq, hsign] at hblank
    have hcomma : c ≠ ',' := by
      rintro rfl
      exact absurd hblank (by decide)
    exact absurd hc (not_mem_written hne hcomma (not_isDigit_of_isBlank hblank) h)
  · simpa using hblank

end Range

/-! ## Lines -/

/-- A line of the language of headers, part by part. -/
@[ext] structure Form where
  lead : List Char
  old : RangeDigits
  gap : List Char
  new : RangeDigits
  trail : List Char
  rest : List Char
  isBlankRun_lead : IsBlankRun lead
  isDigits_old : old.IsDigits
  gap_ne_nil : gap ≠ []
  isBlankRun_gap : IsBlankRun gap
  isDigits_new : new.IsDigits
  isBlankRun_trail : IsBlankRun trail

namespace Form

/-- What stands between the marks. -/
def ranges (f : Form) : List Char :=
  f.lead ++ (f.old.written '-' ++ (f.gap ++ (f.new.written '+' ++ f.trail)))

/-- The line. -/
def written (f : Form) : List Char := marker ++ (f.ranges ++ marker ++ f.rest)

/-- The line with one blank before, between and after its ranges. -/
def spaced (old new : RangeDigits) (rest : List Char) (hold : old.IsDigits) (hnew : new.IsDigits) :
    Form where
  lead := [' ']
  old := old
  gap := [' ']
  new := new
  trail := [' ']
  rest := rest
  isBlankRun_lead := by decide
  isDigits_old := hold
  gap_ne_nil := by decide
  isBlankRun_gap := by decide
  isDigits_new := hnew
  isBlankRun_trail := by decide

/-- Is a header what a line says? -/
structure Says (f : Form) (header : HunkHeader) : Prop where
  old : f.old.Says header.oldStart header.oldCount
  new : f.new.Says header.newStart header.newCount
  heading : header.heading = trim (String.ofList f.rest)

variable (f : Form)

theorem at_not_mem_ranges : '@' ∉ f.ranges := by
  have hblanks : ∀ s : List Char, IsBlankRun s → '@' ∉ s := by
    intro s hs hat
    exact absurd (hs '@' hat) (by decide)
  have hold : '@' ∉ f.old.written '-' :=
    not_mem_written (by decide) (by decide) (by decide) f.isDigits_old
  have hnew : '@' ∉ f.new.written '+' :=
    not_mem_written (by decide) (by decide) (by decide) f.isDigits_new
  simp [ranges, hold, hnew, hblanks f.lead f.isBlankRun_lead, hblanks f.gap f.isBlankRun_gap,
    hblanks f.trail f.isBlankRun_trail]

theorem splitMarks_written : splitMarks f.written = .ok (f.ranges, f.rest) := by
  have hclosing : breakOn? marker (f.ranges ++ marker ++ f.rest) = some (f.ranges, f.rest) := by
    rw [List.append_assoc]
    exact breakOn?_append f.rest f.at_not_mem_ranges
  simp only [splitMarks, written, dropLead?_append, hclosing]

theorem words_ranges : words f.ranges = [f.old.written '-', f.new.written '+'] :=
  words_eq_pair_iff.2 ⟨f.lead, f.gap, f.trail, rfl, f.isBlankRun_lead,
    isWord_written (by decide) f.isDigits_old, f.gap_ne_nil, f.isBlankRun_gap,
    isWord_written (by decide) f.isDigits_new, f.isBlankRun_trail⟩

/-- A line of the language is a header if the digits of both ranges can be read. -/
theorem readL_written :
    readL f.written = (rangeValue f.old).bind fun old => (rangeValue f.new).map fun new =>
      .ok ⟨old.1, old.2, new.1, new.2, String.ofList (trimL f.rest)⟩ := by
  have hmarked : IsMarked f.written f.ranges f.rest := splitMarks_eq_ok_iff.1 f.splitMarks_written
  rw [readL_of_words hmarked f.words_ranges (isRange_written '-' f.isDigits_old)]
  simp only [answerOf, splitRange?_eq_some_iff.2 (isRange_written '+' f.isDigits_new)]

theorem readL_written_eq_header_iff {header : HunkHeader} :
    readL f.written = .ok (.ok header) ↔
      f.old.IsReadable ∧ f.new.IsReadable ∧ f.Says header := by
  have hparts : readL f.written = .ok (.ok header) ↔
      rangeValue f.old = .ok (header.oldStart, header.oldCount) ∧
        rangeValue f.new = .ok (header.newStart, header.newCount) ∧
          header.heading = String.ofList (trimL f.rest) := by
    obtain ⟨a, b, c, d, heading⟩ := header
    rw [readL_written]
    cases hold : rangeValue f.old with
    | error fault => simp [Except.bind]
    | ok old =>
      cases hnew : rangeValue f.new with
      | error fault => simp [Except.bind, Except.map]
      | ok new => simp [Except.bind, Except.map, Prod.ext_iff, and_assoc, eq_comm]
  have htrim : trim (String.ofList f.rest) = String.ofList (trimL f.rest) := by
    rw [trim, String.toList_ofList]
  rw [hparts, rangeValue_eq_ok_iff f.isDigits_old, rangeValue_eq_ok_iff f.isDigits_new, ← htrim]
  constructor
  · rintro ⟨⟨hold, holdSays⟩, ⟨hnew, hnewSays⟩, hheading⟩
    exact ⟨hold, hnew, holdSays, hnewSays, hheading⟩
  · rintro ⟨hold, hnew, hsays⟩
    exact ⟨⟨hold, hsays.old⟩, ⟨hnew, hsays.new⟩, hsays.heading⟩

/-- A line of the language has an answer exactly if the digits of both ranges can be read. -/
theorem exists_readL_written_iff :
    (∃ answer, readL f.written = .ok answer) ↔ f.old.IsReadable ∧ f.new.IsReadable := by
  rw [readL_written, ← exists_rangeValue_iff (isRange_written '-' f.isDigits_old),
    ← exists_rangeValue_iff (isRange_written '+' f.isDigits_new)]
  cases rangeValue f.old with
  | error fault => simp [Except.bind]
  | ok old => cases rangeValue f.new <;> simp [Except.bind, Except.map]

/-- A line with one blank at each place has no newline if what follows its marks has none. -/
theorem newline_not_mem_spaced {old new : RangeDigits} {rest : List Char} (hold : old.IsDigits)
    (hnew : new.IsDigits) (hrest : '\n' ∉ rest) :
    '\n' ∉ (spaced old new rest hold hnew).written := by
  have holdText : '\n' ∉ old.written '-' :=
    not_mem_written (by decide) (by decide) (by decide) hold
  have hnewText : '\n' ∉ new.written '+' :=
    not_mem_written (by decide) (by decide) (by decide) hnew
  simp [spaced, written, ranges, marker, holdText, hnewText, hrest]

/-- A line has one form. -/
theorem eq_of_written_eq {f g : Form} (h : f.written = g.written) : f = g := by
  have hparts : (f.ranges, f.rest) = (g.ranges, g.rest) := by
    have hsplit := f.splitMarks_written
    rw [h, g.splitMarks_written] at hsplit
    exact (Except.ok.inj hsplit).symm
  obtain ⟨hranges, hrest⟩ := Prod.mk.inj hparts
  have hwords : [f.old.written '-', f.new.written '+'] =
      [g.old.written '-', g.new.written '+'] := by
    rw [← f.words_ranges, ← g.words_ranges, hranges]
  obtain ⟨holdText, hnewText⟩ : f.old.written '-' = g.old.written '-' ∧
      f.new.written '+' = g.new.written '+' := by simpa using hwords
  have hold : f.old = g.old := range_eq_of_written_eq f.isDigits_old g.isDigits_old holdText
  have hnew : f.new = g.new := range_eq_of_written_eq f.isDigits_new g.isDigits_new hnewText
  -- the blanks before a range end at its sign, so that the runs of blanks agree one by one
  have hsign : ∀ (sign : Char) (range : RangeDigits) (s : List Char), isBlank sign = false →
      ∀ c ∈ (range.written sign ++ s).head?, isBlank c = false := by
    intro sign range s hblank c hc
    obtain rfl : sign = c := by simpa [RangeDigits.written] using hc
    exact hblank
  unfold ranges at hranges
  rw [holdText, hnewText] at hranges
  obtain ⟨hlead, htail⟩ := append_inj_of_isBlankRun f.isBlankRun_lead g.isBlankRun_lead
    (hsign _ _ _ (by decide)) (hsign _ _ _ (by decide)) hranges
  obtain ⟨hgap, hend⟩ := append_inj_of_isBlankRun f.isBlankRun_gap g.isBlankRun_gap
    (hsign _ _ _ (by decide)) (hsign _ _ _ (by decide)) (List.append_cancel_left htail)
  exact Form.ext hlead hold hgap hnew (List.append_cancel_left hend) hrest

end Form

/-- Only lines of the language are headers. -/
theorem exists_form_of_readL {line : List Char} {header : HunkHeader}
    (h : readL line = .ok (.ok header)) : ∃ f : Form, f.written = line := by
  by_cases hshape : ∃ (ranges rest old new : List Char) (oldDigits : RangeDigits),
      IsMarked line ranges rest ∧ words ranges = [old, new] ∧ IsRange '-' oldDigits old
  · obtain ⟨ranges, rest, old, new, oldDigits, hmarked, hwords, hold⟩ := hshape
    rw [readL_of_words hmarked hwords hold] at h
    cases hnew : splitRange? '+' new with
    | none =>
      -- without a new range there is an answer, but no header
      cases hvalue : rangeValue oldDigits <;> simp [hvalue, Except.bind, answerOf, hnew] at h
    | some newDigits =>
      have hnewRange : IsRange '+' newDigits new := splitRange?_eq_some_iff.1 hnew
      obtain ⟨lead, gap, trail, hranges, hlead, -, hgap, hgapBlank, -, htrail⟩ :=
        words_eq_pair_iff.1 hwords
      have hline : line = marker ++ (lead ++ (oldDigits.written '-' ++
          (gap ++ (newDigits.written '+' ++ trail))) ++ marker ++ rest) := by
        rw [hmarked.written, hranges, hold.written, hnewRange.written]
        rfl
      exact ⟨⟨lead, oldDigits, gap, newDigits, trail, rest, hlead, ⟨hold.start, hold.count⟩,
        hgap, hgapBlank, ⟨hnewRange.start, hnewRange.count⟩, htrail⟩, hline.symm⟩
  · have hnone : ∀ (ranges rest old new : List Char) (oldDigits : RangeDigits),
        IsMarked line ranges rest → words ranges = [old, new] → ¬ IsRange '-' oldDigits old :=
      fun ranges rest old new oldDigits hmarked hwords hold =>
        hshape ⟨ranges, rest, old, new, oldDigits, hmarked, hwords, hold⟩
    obtain ⟨why, hwhy⟩ := readL_of_forall_not hnone
    rw [hwhy] at h
    cases h

/-- A line with an answer is a header exactly if it can be written as one that says it. -/
theorem readL_eq_header_iff {line : List Char} (hanswer : ∃ answer, readL line = .ok answer)
    {header : HunkHeader} :
    readL line = .ok (.ok header) ↔ ∃ f : Form, f.written = line ∧ f.Says header := by
  constructor
  · intro h
    obtain ⟨f, rfl⟩ := exists_form_of_readL h
    exact ⟨f, rfl, (f.readL_written_eq_header_iff.1 h).2.2⟩
  · rintro ⟨f, rfl, hsays⟩
    obtain ⟨hold, hnew⟩ := f.exists_readL_written_iff.1 hanswer
    exact f.readL_written_eq_header_iff.2 ⟨hold, hnew, hsays⟩

/-! ## Printed headers -/

/-- A range in base ten, with or without its count. -/
def rangeText (start count : Nat) (showsCount : Bool) : String :=
  if showsCount then s!"{start},{count}" else s!"{start}"

/-- A header as it is printed, with or without its counts. -/
def printed (header : HunkHeader) (showsOldCount showsNewCount : Bool) : String :=
  s!"@@ -{rangeText header.oldStart header.oldCount showsOldCount} " ++
    s!"+{rangeText header.newStart header.newCount showsNewCount} @@ {header.heading}"

/-- May a header be printed so?  Its numbers may have no more digits than a numeral, only a count of
one is left out, and the heading has no blanks around it. -/
structure IsPrintable (header : HunkHeader) (showsOldCount showsNewCount : Bool) : Prop where
  numbers : ∀ n ∈ [header.oldStart, header.oldCount, header.newStart, header.newCount],
    n < 10 ^ Numeral.digitLimit
  oldCount : showsOldCount = false → header.oldCount = 1
  newCount : showsNewCount = false → header.newCount = 1
  heading : trim header.heading = header.heading

/-- The digits of a range in base ten. -/
def digitsOf (start count : Nat) (showsCount : Bool) : RangeDigits :=
  (Numeral.digits start, if showsCount then some (Numeral.digits count) else none)

section Printed

variable {start count : Nat} {showsCount : Bool}

theorem isDigits_digitsOf (start count : Nat) (showsCount : Bool) :
    (digitsOf start count showsCount).IsDigits := by
  refine ⟨Numeral.allDigits_digits start, fun ds hds => ?_⟩
  cases showsCount with
  | false => cases hds
  | true =>
    obtain rfl : Numeral.digits count = ds := Option.some.inj hds
    exact Numeral.allDigits_digits count

theorem isReadable_digitsOf (hstart : start < 10 ^ Numeral.digitLimit)
    (hcount : count < 10 ^ Numeral.digitLimit) :
    (digitsOf start count showsCount).IsReadable := by
  refine ⟨Numeral.isReadable_digits hstart, fun ds hds => ?_⟩
  cases showsCount with
  | false => cases hds
  | true =>
    obtain rfl : Numeral.digits count = ds := Option.some.inj hds
    exact Numeral.isReadable_digits hcount

theorem says_digitsOf (h : showsCount = false → count = 1) :
    (digitsOf start count showsCount).Says start count := by
  refine ⟨Numeral.hasValue_digits start, ?_⟩
  cases showsCount with
  | false => exact h rfl
  | true => exact Numeral.hasValue_digits count

theorem written_digitsOf (sign : Char) (start count : Nat) (showsCount : Bool) :
    (digitsOf start count showsCount).written sign =
      sign :: (rangeText start count showsCount).toList := by
  cases showsCount <;>
    simp [digitsOf, RangeDigits.written, rangeText, Numeral.digits, Nat.repr_eq_ofList_toDigits,
      toString]

end Printed

/-- The line that is printed for a header. -/
def form (header : HunkHeader) (showsOldCount showsNewCount : Bool) : Form :=
  .spaced (digitsOf header.oldStart header.oldCount showsOldCount)
    (digitsOf header.newStart header.newCount showsNewCount) (' ' :: header.heading.toList)
    (isDigits_digitsOf _ _ _) (isDigits_digitsOf _ _ _)

theorem written_form (header : HunkHeader) (showsOldCount showsNewCount : Bool) :
    (header.form showsOldCount showsNewCount).written =
      (header.printed showsOldCount showsNewCount).toList := by
  simp [Form.written, Form.ranges, form, Form.spaced, written_digitsOf, printed, marker, toString]

theorem startsWith_printed (header : HunkHeader) (showsOldCount showsNewCount : Bool) :
    startsWith marker (header.printed showsOldCount showsNewCount).toList = true := by
  rw [← written_form, Form.written, startsWith, dropLead?_append]
  rfl

/-- A header is printed in one line, if its heading is one. -/
theorem newline_not_mem_printed {header : HunkHeader} {showsOldCount showsNewCount : Bool}
    (h : '\n' ∉ header.heading.toList) :
    '\n' ∉ (header.printed showsOldCount showsNewCount).toList := by
  rw [← written_form]
  exact Form.newline_not_mem_spaced _ _ (by simpa using h)

/-- A header that is printed is read back. -/
theorem read_printed {header : HunkHeader} {showsOldCount showsNewCount : Bool}
    (h : header.IsPrintable showsOldCount showsNewCount) :
    read (header.printed showsOldCount showsNewCount) = .ok (.ok header) := by
  have hnumber := h.numbers
  simp only [List.forall_mem_cons, List.not_mem_nil, false_imp_iff, implies_true, and_true]
    at hnumber
  obtain ⟨holdStart, holdCount, hnewStart, hnewCount⟩ := hnumber
  have hsays : (header.form showsOldCount showsNewCount).Says header := by
    refine ⟨says_digitsOf h.oldCount, says_digitsOf h.newCount, ?_⟩
    have htrim : trim (String.ofList (' ' :: header.heading.toList)) = trim header.heading := by
      rw [trim, String.toList_ofList, trimL_blank_cons (by decide)]
      rfl
    exact h.heading.symm.trans htrim.symm
  rw [read, ← written_form]
  exact (Form.readL_written_eq_header_iff _).2
    ⟨isReadable_digitsOf holdStart holdCount, isReadable_digitsOf hnewStart hnewCount, hsays⟩

/-- A line with an answer is a header exactly if it is in the language of headers, and the header
says what the line does.  A line has one form, and a header that is printed is read back. -/
theorem read_language (line : String) (header : HunkHeader) :
    ((∃ answer, read line = .ok answer) →
      (read line = .ok (.ok header) ↔ ∃ f : Form, f.written = line.toList ∧ f.Says header)) ∧
    (∀ f g : Form, f.written = line.toList → g.written = line.toList → f = g) ∧
    ∀ showsOldCount showsNewCount : Bool, header.IsPrintable showsOldCount showsNewCount →
      read (header.printed showsOldCount showsNewCount) = .ok (.ok header) := by
  refine ⟨fun hanswer => ?_, fun f g hf hg => ?_, fun showsOldCount showsNewCount hprintable => ?_⟩
  · exact readL_eq_header_iff hanswer
  · exact Form.eq_of_written_eq (hf.trans hg.symm)
  · exact read_printed hprintable

/-- No blanks around the ranges, a tab between them, digits of two scripts, and a heading that holds
a mark. -/
theorem read_tabbedHeader :
    (∃ answer, read "@@-٣\t+07,2@@ a @@ b" = .ok answer) ∧
      (∃! f : Form, f.written = "@@-٣\t+07,2@@ a @@ b".toList ∧ f.Says ⟨3, 1, 7, 2, "a @@ b"⟩) ∧
      IsPrintable ⟨3, 1, 7, 2, "a @@ b"⟩ false true ∧
      read (printed ⟨3, 1, 7, 2, "a @@ b"⟩ false true) = .ok (.ok ⟨3, 1, 7, 2, "a @@ b"⟩) := by
  have hread : read "@@-٣\t+07,2@@ a @@ b" = .ok (.ok ⟨3, 1, 7, 2, "a @@ b"⟩) := by
    decide +kernel
  obtain ⟨hlanguage, honce, hprinted⟩ :=
    read_language "@@-٣\t+07,2@@ a @@ b" ⟨3, 1, 7, 2, "a @@ b"⟩
  obtain ⟨f, hwritten, hsays⟩ := (hlanguage ⟨_, hread⟩).1 hread
  have honly : ∀ g : Form, g.written = "@@-٣\t+07,2@@ a @@ b".toList ∧
      g.Says ⟨3, 1, 7, 2, "a @@ b"⟩ → g = f := fun g hg =>
    honce g f hg.1 hwritten
  have hprintable : IsPrintable ⟨3, 1, 7, 2, "a @@ b"⟩ false true := by
    refine ⟨fun n hn => ?_, fun _ => rfl, fun h => absurd h (by decide), by decide +kernel⟩
    have hsmall : ∀ m ∈ [3, 1, 7, 2], m < 10 ^ 1 := by decide
    exact Nat.lt_of_lt_of_le (hsmall n hn) (Nat.pow_le_pow_right (by decide) (by decide))
  exact ⟨⟨_, hread⟩, ⟨f, ⟨hwritten, hsays⟩, honly⟩, hprintable, hprinted _ _ hprintable⟩

end HunkHeader

end InlineReview
