import InlineReview.Patch.HunkHeader
import InlineReview.Proofs.Text.Lines

/-!
# The text of a hunk header

What a line holds when it is taken for the header of a hunk: two marks, two words between them,
and in each word a sign and runs of digits.  A run of digits need not be a number, since a digit
of any kind is let through while only a decimal one has a value, and since a numeral has a limit.
A line is unreadable when it comes to such a run; every other line has an answer, be it a header
or what keeps the line from being one.

* `Numeral.exists_read_iff` — which runs of digits are numbers.
* `HunkHeader.splitMarks_eq_ok_iff`, `HunkHeader.splitRange?_eq_some_iff` — how a line and a word
  are taken apart.
* `HunkHeader.exists_readL_iff` — which lines have an answer.
-/

namespace InlineReview

open Text

/-! ## Numbers -/

namespace Numeral

/-- Is each character of a run a decimal digit, and is the run not too long? -/
def IsReadable (ds : List Char) : Prop :=
  ds.length ≤ digitLimit ∧ ∀ c ∈ ds, (digitValue? c).isSome = true

instance (ds : List Char) : Decidable (IsReadable ds) :=
  inferInstanceAs (Decidable (_ ∧ _))

theorem leadingDigits_of_isSome {s : List Char} (h : ∀ c ∈ s, (digitValue? c).isSome = true) :
    (leadingDigits s).1.length = s.length ∧ (leadingDigits s).2 = [] := by
  induction s with
  | nil => exact ⟨rfl, rfl⟩
  | cons c r ih =>
    obtain ⟨hlength, hrest⟩ := ih fun d hd => h d (by simp [hd])
    obtain ⟨v, hv⟩ := Option.isSome_iff_exists.1 (h c (by simp))
    simp [leadingDigits, hv, hlength, hrest]

theorem isSome_of_leadingDigits {s : List Char} (h : (leadingDigits s).2 = []) :
    ∀ c ∈ s, (digitValue? c).isSome = true := by
  induction s with
  | nil => simp
  | cons c r ih =>
    cases hv : digitValue? c with
    | none => simp [leadingDigits, hv] at h
    | some v =>
      rw [leadingDigits, hv] at h
      intro d hd
      rcases List.mem_cons.1 hd with rfl | hd
      · rw [hv]
        rfl
      · exact ih h d hd

/-- A run of characters is a number exactly if each is a decimal digit and there are not too many
of them. -/
theorem exists_read_iff {s : List Char} (hne : s ≠ []) :
    (∃ n, read s = .ok n) ↔ IsReadable s := by
  by_cases hdecimal : ∀ c ∈ s, (digitValue? c).isSome = true
  · obtain ⟨hlength, hrest⟩ := leadingDigits_of_isSome hdecimal
    have hsome : (leadingDigits s).1 ≠ [] := by
      rw [← List.length_pos_iff, hlength]
      exact List.length_pos_iff.2 hne
    have hread : read s = if digitLimit < s.length then .error (.tooLong s.length)
        else .ok (ofDigits (leadingDigits s).1) := by
      simp only [read, hlength, hrest]
      simp [hsome]
    rw [hread, IsReadable]
    by_cases hlimit : digitLimit < s.length
    · rw [if_pos hlimit]
      constructor
      · rintro ⟨n, h⟩
        cases h
      · rintro ⟨hle, -⟩
        exact absurd hlimit (Nat.not_lt.2 hle)
    · rw [if_neg hlimit]
      exact ⟨fun _ => ⟨Nat.not_lt.1 hlimit, hdecimal⟩, fun _ => ⟨_, rfl⟩⟩
  · have hrest : (leadingDigits s).2 ≠ [] := fun h => hdecimal (isSome_of_leadingDigits h)
    constructor
    · rintro ⟨n, h⟩
      simp only [read] at h
      split at h
      · cases h
      · simp [hrest] at h
    · exact fun h => absurd h.2 hdecimal

end Numeral

namespace HunkHeader

/-! ## Ranges -/

/-- The digits of a range as they are written after a sign. -/
structure IsRange (sign : Char) (range : RangeDigits) (token : List Char) : Prop where
  written : token = sign :: (range.1 ++ (range.2.map (',' :: ·)).getD [])
  start : allDigits range.1 = true
  count : ∀ ds ∈ range.2, allDigits ds = true

/-- Are the first line and the count of a range numbers? -/
def RangeDigits.IsReadable (range : RangeDigits) : Prop :=
  Numeral.IsReadable range.1 ∧ ∀ ds ∈ range.2, Numeral.IsReadable ds

theorem ne_nil_of_allDigits {ds : List Char} (h : allDigits ds = true) : ds ≠ [] := by
  rintro rfl
  cases h

theorem comma_not_mem_of_allDigits {ds : List Char} (h : allDigits ds = true) : ',' ∉ ds := by
  intro hcomma
  rw [allDigits, Bool.and_eq_true, List.all_eq_true] at h
  have hdigit : isDigit ',' = true := h.2 ',' hcomma
  exact absurd hdigit (by decide)

/-- A word is taken apart as a range exactly if it is written as one. -/
theorem splitRange?_eq_some_iff {sign : Char} {token : List Char} {range : RangeDigits} :
    splitRange? sign token = some range ↔ IsRange sign range token := by
  obtain ⟨start, count⟩ := range
  constructor
  · intro h
    cases token with
    | nil => cases h
    | cons c r =>
      rcases hparts : breakAt ',' r with ⟨s, n⟩
      simp only [splitRange?, hparts, Bool.and_eq_true, decide_eq_true_eq] at h
      split at h
      · rename_i hwell
        obtain ⟨⟨rfl, hs⟩, hn⟩ := hwell
        obtain ⟨rfl, rfl⟩ := Prod.mk.inj (Option.some.inj h)
        refine ⟨by rw [eq_of_breakAt hparts], hs, fun ds hds => ?_⟩
        have hsome : n = some ds := hds
        rwa [hsome, Option.all_some] at hn
      · cases h
  · rintro ⟨rfl, hstart, hcount⟩
    have hcomma : ',' ∉ start := comma_not_mem_of_allDigits hstart
    cases count with
    | none =>
      have hbreak : breakAt ',' start = (start, none) := breakAt_of_not_mem hcomma
      simpa [splitRange?, hbreak] using hstart
    | some ds =>
      have hbreak : breakAt ',' (start ++ ',' :: ds) = (start, some ds) :=
        breakAt_append_cons ds hcomma
      simpa [splitRange?, hbreak] using ⟨hstart, hcount ds rfl⟩

/-- A range has its two numbers exactly if its digits can be read. -/
theorem exists_rangeValue_iff {sign : Char} {token : List Char} {range : RangeDigits}
    (h : IsRange sign range token) : (∃ value, rangeValue range = .ok value) ↔
      range.IsReadable := by
  obtain ⟨start, count⟩ := range
  have hstart := Numeral.exists_read_iff (ne_nil_of_allDigits h.start)
  cases hs : Numeral.read start with
  | error fault =>
    have hvalue : rangeValue (start, count) = .error fault := by
      simp only [rangeValue, hs]
      rfl
    rw [hs] at hstart
    rw [hvalue, RangeDigits.IsReadable, ← hstart]
    simp
  | ok n =>
    rw [hs] at hstart
    have hreadable : Numeral.IsReadable start := hstart.1 ⟨n, rfl⟩
    cases count with
    | none =>
      have hvalue : rangeValue (start, none) = .ok (n, 1) := by
        simp only [rangeValue, hs]
        rfl
      rw [hvalue, RangeDigits.IsReadable]
      simp [hreadable]
    | some ds =>
      have hcount := Numeral.exists_read_iff (ne_nil_of_allDigits (h.count ds rfl))
      have hvalue : rangeValue (start, some ds) = (Numeral.read ds).map fun m => (n, m) := by
        simp only [rangeValue, hs]
        cases Numeral.read ds <;> rfl
      rw [hvalue, RangeDigits.IsReadable]
      simp only [hreadable, true_and, Option.mem_def, Option.some.injEq, forall_eq', ← hcount]
      cases Numeral.read ds <;> simp [Except.map]

/-! ## Marks -/

/-- A line that opens with a mark and closes its ranges with the first mark after that one. -/
structure IsMarked (line ranges rest : List Char) : Prop where
  written : line = marker ++ (ranges ++ marker ++ rest)
  first : ∀ before after, ranges ++ marker ++ rest = before ++ marker ++ after →
    ranges.length ≤ before.length

/-- A line is taken apart at its two marks. -/
theorem splitMarks_eq_ok_iff {line ranges rest : List Char} :
    splitMarks line = .ok (ranges, rest) ↔ IsMarked line ranges rest := by
  constructor
  · intro h
    unfold splitMarks at h
    split at h
    · cases h
    · rename_i after hopening
      split at h
      · cases h
      · rename_i parts hclosing
        rw [Except.ok.inj h] at hclosing
        obtain ⟨rfl, hfirst⟩ := breakOn?_eq_some_iff.1 hclosing
        exact ⟨eq_append_of_dropLead? hopening, hfirst⟩
  · rintro ⟨rfl, hfirst⟩
    have hclosing : breakOn? marker (ranges ++ marker ++ rest) = some (ranges, rest) :=
      breakOn?_eq_some_iff.2 ⟨rfl, hfirst⟩
    simp only [splitMarks, dropLead?_append, hclosing]

/-! ## Lines -/

/-- A line with two words between its marks, of which the first is an old range, and in which the
first range that is not two numbers is written as a range all the same. -/
def IsUnreadable (line : List Char) : Prop :=
  ∃ (ranges rest old new : List Char) (oldDigits : RangeDigits),
    IsMarked line ranges rest ∧ words ranges = [old, new] ∧ IsRange '-' oldDigits old ∧
      (¬ oldDigits.IsReadable ∨
        ∃ newDigits : RangeDigits, IsRange '+' newDigits new ∧ ¬ newDigits.IsReadable)

/-- The answer about a line that has two words between its marks, the first an old range. -/
def answerOf (old : Nat × Nat) (new rest : List Char) :
    Except Numeral.Fault (Except Malformed HunkHeader) :=
  match splitRange? '+' new with
  | none => .ok (.error (.newRange (String.ofList new)))
  | some digits => (rangeValue digits).map fun value =>
      .ok ⟨old.1, old.2, value.1, value.2, String.ofList (trimL rest)⟩

theorem readL_of_words {line ranges rest old new : List Char} {oldDigits : RangeDigits}
    (hmarked : IsMarked line ranges rest) (hwords : words ranges = [old, new])
    (hold : IsRange '-' oldDigits old) :
    readL line = (rangeValue oldDigits).bind fun value => answerOf value new rest := by
  rw [readL, splitMarks_eq_ok_iff.2 hmarked]
  simp only [hwords, splitRange?_eq_some_iff.2 hold]
  cases hvalue : rangeValue oldDigits with
  | error fault => rfl
  | ok value =>
    obtain ⟨oldStart, oldCount⟩ := value
    simp only [answerOf, Except.bind]
    cases hnew : splitRange? '+' new with
    | none => rfl
    | some newDigits => cases hnewValue : rangeValue newDigits <;> rfl

theorem exists_answerOf_iff {old : Nat × Nat} {new rest : List Char} :
    (∃ answer, answerOf old new rest = .ok answer) ↔
      ∀ digits : RangeDigits, IsRange '+' digits new → digits.IsReadable := by
  cases hnew : splitRange? '+' new with
  | none =>
    have hno : ∀ digits, ¬ IsRange '+' digits new := fun digits h => by
      rw [splitRange?_eq_some_iff.2 h] at hnew
      cases hnew
    simp [answerOf, hnew, hno]
  | some digits =>
    have hrange : IsRange '+' digits new := splitRange?_eq_some_iff.1 hnew
    have honly : ∀ ds : RangeDigits, IsRange '+' ds new → ds = digits := fun ds h => by
      rw [splitRange?_eq_some_iff.2 h] at hnew
      exact Option.some.inj hnew
    have hvalue := exists_rangeValue_iff hrange
    constructor
    · rintro ⟨answer, h⟩ ds hds
      rw [honly ds hds, ← hvalue]
      simp only [answerOf, hnew] at h
      cases hv : rangeValue digits with
      | error fault =>
        rw [hv] at h
        cases h
      | ok value => exact ⟨value, rfl⟩
    · intro h
      obtain ⟨value, hv⟩ := hvalue.2 (h digits hrange)
      exact ⟨_, by simp only [answerOf, hnew, hv, Except.map]; rfl⟩

/-- The parts of a line are determined, since each is what the reader takes out of it. -/
theorem isUnreadable_iff_of_words {line ranges rest old new : List Char}
    {oldDigits : RangeDigits} (hmarked : IsMarked line ranges rest)
    (hwords : words ranges = [old, new]) (hold : IsRange '-' oldDigits old) :
    IsUnreadable line ↔ ¬ oldDigits.IsReadable ∨
      ∃ newDigits : RangeDigits, IsRange '+' newDigits new ∧ ¬ newDigits.IsReadable := by
  constructor
  · rintro ⟨ranges', rest', old', new', oldDigits', hmarked', hwords', hold', h⟩
    have hranges : ranges' = ranges := by
      have hsplit := splitMarks_eq_ok_iff.2 hmarked
      rw [splitMarks_eq_ok_iff.2 hmarked'] at hsplit
      exact (Prod.mk.inj (Except.ok.inj hsplit)).1
    rw [hranges, hwords] at hwords'
    obtain ⟨rfl, rfl⟩ : old = old' ∧ new = new' := by simpa using hwords'
    have hdigits : oldDigits' = oldDigits := by
      have hsplit := splitRange?_eq_some_iff.2 hold
      rw [splitRange?_eq_some_iff.2 hold'] at hsplit
      exact Option.some.inj hsplit
    rwa [hdigits] at h
  · exact fun h => ⟨ranges, rest, old, new, oldDigits, hmarked, hwords, hold, h⟩

/-- Without two words between marks, the first an old range, no number is read. -/
theorem readL_of_forall_not {line : List Char}
    (h : ∀ (ranges rest old new : List Char) (oldDigits : RangeDigits), IsMarked line ranges rest →
      words ranges = [old, new] → ¬ IsRange '-' oldDigits old) :
    ∃ why, readL line = .ok (.error why) := by
  unfold readL
  split
  · exact ⟨_, rfl⟩
  · rename_i ranges rest hsplit
    have hmarked : IsMarked line ranges rest := splitMarks_eq_ok_iff.1 hsplit
    split
    · rename_i old new hwords
      split
      · exact ⟨_, rfl⟩
      · rename_i oldDigits hrange
        have hold : IsRange '-' oldDigits old := splitRange?_eq_some_iff.1 hrange
        exact absurd hold (h ranges rest old new oldDigits hmarked hwords)
    · exact ⟨_, rfl⟩

/-- A line has an answer exactly if it is not unreadable. -/
theorem exists_readL_iff {line : List Char} :
    (∃ answer, readL line = .ok answer) ↔ ¬ IsUnreadable line := by
  by_cases hshape : ∃ (ranges rest old new : List Char) (oldDigits : RangeDigits),
      IsMarked line ranges rest ∧ words ranges = [old, new] ∧ IsRange '-' oldDigits old
  · obtain ⟨ranges, rest, old, new, oldDigits, hmarked, hwords, hold⟩ := hshape
    have hvalue := exists_rangeValue_iff hold
    rw [isUnreadable_iff_of_words hmarked hwords hold, readL_of_words hmarked hwords hold]
    cases hv : rangeValue oldDigits with
    | error fault =>
      have hnot : ¬ oldDigits.IsReadable := by
        intro hreadable
        obtain ⟨value, hok⟩ := hvalue.2 hreadable
        rw [hv] at hok
        cases hok
      simp [Except.bind, hnot]
    | ok value =>
      have hreadable : oldDigits.IsReadable := hvalue.1 ⟨value, hv⟩
      simp only [Except.bind, exists_answerOf_iff, hreadable, not_true, false_or, not_exists,
        not_and, Classical.not_not]
  · have hnone : ∀ (ranges rest old new : List Char) (oldDigits : RangeDigits),
        IsMarked line ranges rest → words ranges = [old, new] → ¬ IsRange '-' oldDigits old :=
      fun ranges rest old new oldDigits hmarked hwords hold =>
        hshape ⟨ranges, rest, old, new, oldDigits, hmarked, hwords, hold⟩
    obtain ⟨why, hwhy⟩ := readL_of_forall_not hnone
    refine ⟨fun _ => ?_, fun _ => ⟨_, hwhy⟩⟩
    rintro ⟨ranges, rest, old, new, oldDigits, hmarked, hwords, hold, -⟩
    exact hnone ranges rest old new oldDigits hmarked hwords hold

end HunkHeader

end InlineReview
