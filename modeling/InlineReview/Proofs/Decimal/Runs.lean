import InlineReview.Decimal.Reading
import InlineReview.Proofs.Text.Ascii

/-!
# Runs of digits

The digits of a number are of any script, and a single underscore may stand between two of them.  To
read a number its digits are written in ASCII and the underscores are removed; what is left of a run
are then its digits, and nothing is left if there is an underscore at any other place.

* `Double.IsRun` — the runs of digits, with the values of these.
* `Double.loosen_eq_some_iff` — what is left when the underscores are removed.
* `Double.splitDigits_written` — the digits at the front of what is left.
-/

namespace InlineReview.Double

open Text

/-! ## Runs -/

/-- What follows the first digit of a run, with the values of its digits: before each of them an
underscore may stand. -/
inductive RunTail : List Char → List Nat → Prop
  | nil : RunTail [] []
  | digit {c : Char} {d : Nat} {s : List Char} {ds : List Nat} (hd : digitValue? c = some d)
      (h : RunTail s ds) : RunTail (c :: s) (d :: ds)
  | spaced {c : Char} {d : Nat} {s : List Char} {ds : List Nat} (hd : digitValue? c = some d)
      (h : RunTail s ds) : RunTail ('_' :: c :: s) (d :: ds)

/-- A run of digits with their values.  It may be empty. -/
inductive IsRun : List Char → List Nat → Prop
  | nil : IsRun [] []
  | digits {c : Char} {d : Nat} {s : List Char} {ds : List Nat} (hd : digitValue? c = some d)
      (h : RunTail s ds) : IsRun (c :: s) (d :: ds)

/-! ## Digits -/

variable {c : Char} {d : Nat} {s r t w x : List Char} {ds : List Nat}

theorem exists_zero_of_digitValue? (h : digitValue? c = some d) :
    ∃ z ∈ decimalZeros, c.toNat = z + d ∧ d < 10 := by
  obtain ⟨z, hfind, hd⟩ := Option.map_eq_some_iff.1 h
  have hrange := List.find?_some hfind
  simp only [Bool.and_eq_true, decide_eq_true_eq] at hrange
  exact ⟨z, List.mem_of_find?_eq_some hfind, by omega, by omega⟩

/-- The ASCII digit of a value. -/
def asciiDigit (d : Nat) : Char := Char.ofNat (48 + d)

theorem asciiDigit_spec (h : digitValue? c = some d) :
    isAsciiDigit (asciiDigit d) = true ∧ (asciiDigit d).toNat - 48 = d := by
  obtain ⟨-, -, -, hd⟩ := exists_zero_of_digitValue? h
  have hsmall : ∀ d < 10, isAsciiDigit (asciiDigit d) = true ∧ (asciiDigit d).toNat - 48 = d := by
    decide
  exact hsmall d hd

theorem not_isAsciiDigit (h : digitValue? c = none) : isAsciiDigit c = false := by
  rw [← Bool.not_eq_true]
  intro hc
  rw [digitValue?_of_isAsciiDigit hc] at h
  cases h

/-- No digit is a capital letter. -/
theorem lowerAscii_of_digit (h : digitValue? c = some d) : lowerAscii c = c := by
  obtain ⟨z, hz, hc, hd⟩ := exists_zero_of_digitValue? h
  have hgap : ∀ z ∈ decimalZeros, z + 9 < 65 ∨ 90 < z := by decide
  have hcapital : ¬ ('A' ≤ c && c ≤ 'Z') = true := by
    simp only [Bool.and_eq_true, decide_eq_true_eq, Char.le_def, UInt32.le_iff_toNat_le]
    rintro ⟨hlo, hhi⟩
    have hlo' : 65 ≤ c.toNat := hlo
    have hhi' : c.toNat ≤ 90 := hhi
    have hz' := hgap z hz
    omega
  rw [lowerAscii, if_neg hcapital]

theorem asciiDigits_digit (h : digitValue? c = some d) :
    asciiDigits (c :: s) = asciiDigit d :: asciiDigits s := by
  simp [asciiDigits, asciiDigit, h]

theorem asciiDigits_other (h : digitValue? c = none) :
    asciiDigits (c :: s) = c :: asciiDigits s := by
  simp [asciiDigits, h]

/-! ## Underscores -/

theorem dropUnderscores_cons {b : Bool} (hc : c ≠ '_') :
    dropUnderscores b (c :: r) = (dropUnderscores (isAsciiDigit c) r).map (c :: ·) := by
  cases r <;> simp [dropUnderscores, hc]

/-- An underscore stands after a digit, and another one comes next. -/
theorem dropUnderscores_underscore_eq_some {b : Bool} (h : dropUnderscores b ('_' :: r) = some t) :
    b = true ∧ (∃ c s, r = c :: s ∧ isAsciiDigit c = true) ∧ dropUnderscores true r = some t := by
  cases r with
  | nil => cases h
  | cons c s =>
    rw [dropUnderscores] at h
    split at h
    · rename_i hdigits
      obtain ⟨hb, hc⟩ : b = true ∧ isAsciiDigit c = true := by simpa using hdigits
      have hne : c ≠ '_' := ne_of_isAsciiDigit hc (by decide)
      refine ⟨hb, ⟨c, s, rfl, hc⟩, ?_⟩
      rw [dropUnderscores_cons hne, hc, h]
    · cases h

theorem dropUnderscores_digit {b : Bool} (hd : digitValue? c = some d) :
    dropUnderscores b (asciiDigits (c :: s)) =
      (dropUnderscores true (asciiDigits s)).map (asciiDigit d :: ·) := by
  have hdigit := (asciiDigit_spec hd).1
  rw [asciiDigits_digit hd, dropUnderscores_cons (ne_of_isAsciiDigit hdigit (by decide)), hdigit]

theorem dropUnderscores_spaced (hd : digitValue? c = some d) :
    dropUnderscores true (asciiDigits ('_' :: c :: s)) =
      (dropUnderscores true (asciiDigits s)).map (asciiDigit d :: ·) := by
  rw [asciiDigits_other (by decide), asciiDigits_digit hd, dropUnderscores, (asciiDigit_spec hd).1]
  rfl

/-- The characters of a text with its digits written in ASCII and without the underscores between
them, if there are no others. -/
def loosen (s : List Char) : Option (List Char) := dropUnderscores false (asciiDigits s)

/-- Does a text not go on with a run of digits? -/
def Stops (s : List Char) : Prop := ∀ c ∈ s.head?, c ≠ '_' ∧ digitValue? c = none

theorem loosen_other (hc : c ≠ '_') (h : digitValue? c = none) :
    loosen (c :: s) = (loosen s).map (c :: ·) := by
  rw [loosen, loosen, asciiDigits_other h, dropUnderscores_cons hc, not_isAsciiDigit h]

/-- A text that does not go on with a run is the same after a digit. -/
theorem Stops.dropUnderscores_eq (h : Stops s) : dropUnderscores true (asciiDigits s) = loosen s := by
  cases s with
  | nil => rfl
  | cons c r =>
    obtain ⟨hc, hother⟩ := h c rfl
    rw [loosen, asciiDigits_other hother, dropUnderscores_cons hc, dropUnderscores_cons hc]

/-- The ASCII digits of values. -/
def written (ds : List Nat) : List Char := ds.map asciiDigit

theorem RunTail.dropUnderscores_eq (h : RunTail w ds) (hr : Stops r) :
    dropUnderscores true (asciiDigits (w ++ r)) = (loosen r).map (written ds ++ ·) := by
  induction h with
  | nil =>
    rw [List.nil_append, hr.dropUnderscores_eq]
    simp [written]
  | digit hd h ih =>
    rw [List.cons_append, dropUnderscores_digit hd, ih, Option.map_map]
    rfl
  | spaced hd h ih =>
    rw [List.cons_append, List.cons_append, dropUnderscores_spaced hd, ih, Option.map_map]
    rfl

/-- An underscore before a digit belongs to the run that the digit begins. -/
theorem RunTail.after_underscore {v : List Char} (hw : RunTail w ds) (hr : Stops r)
    (h : asciiDigits (w ++ r) = c :: v) (hc : isAsciiDigit c = true) : RunTail ('_' :: w) ds := by
  cases hw with
  | nil =>
    cases r with
    | nil => cases h
    | cons e r =>
      have he := (hr e rfl).2
      rw [List.nil_append, asciiDigits_other he] at h
      obtain ⟨rfl, -⟩ := List.cons.inj h
      rw [not_isAsciiDigit he] at hc
      cases hc
  | digit hd hw => exact .spaced hd hw
  | spaced hd hw =>
    rw [List.cons_append, asciiDigits_other (by decide)] at h
    obtain ⟨rfl, -⟩ := List.cons.inj h
    cases hc

/-- What is read after a digit goes on with a run and then with something else. -/
theorem exists_runTail (h : dropUnderscores true (asciiDigits s) = some t) :
    ∃ w ds r u, s = w ++ r ∧ RunTail w ds ∧ Stops r ∧ loosen r = some u ∧ t = written ds ++ u := by
  induction s generalizing t with
  | nil =>
    obtain rfl := Option.some.inj h
    exact ⟨[], [], [], [], rfl, .nil, by simp [Stops], rfl, rfl⟩
  | cons c s ih =>
    cases hc : digitValue? c with
    | some d =>
      rw [dropUnderscores_digit hc] at h
      obtain ⟨v, hv, rfl⟩ := Option.map_eq_some_iff.1 h
      obtain ⟨w, ds, r, u, rfl, hw, hr, hu, rfl⟩ := ih hv
      exact ⟨c :: w, d :: ds, r, u, rfl, .digit hc hw, hr, hu, rfl⟩
    | none =>
      by_cases hspace : c = '_'
      · -- the text behind the underscore is read in the same way, and starts with a digit
        rw [hspace, asciiDigits_other (by decide)] at h
        obtain ⟨-, ⟨e, v, hs, he⟩, hrest⟩ := dropUnderscores_underscore_eq_some h
        obtain ⟨w, ds, r, u, rfl, hw, hr, hu, rfl⟩ := ih hrest
        rw [hspace]
        exact ⟨'_' :: w, ds, r, u, rfl, hw.after_underscore hr hs he, hr, hu, rfl⟩
      · have hstops : Stops (c :: s) := by
          intro e he
          obtain rfl := Option.some.inj he
          exact ⟨hspace, hc⟩
        rw [hstops.dropUnderscores_eq] at h
        exact ⟨[], [], c :: s, t, rfl, .nil, hstops, h, rfl⟩

/-- What is left of a text are the digits of the run at its front and what is left of the rest. -/
theorem loosen_eq_some_iff : loosen s = some t ↔
    ∃ w ds r u, s = w ++ r ∧ IsRun w ds ∧ Stops r ∧ loosen r = some u ∧ t = written ds ++ u := by
  constructor
  · intro h
    cases s with
    | nil =>
      obtain rfl := Option.some.inj h
      exact ⟨[], [], [], [], rfl, .nil, by simp [Stops], rfl, rfl⟩
    | cons c s =>
      cases hc : digitValue? c with
      | some d =>
        rw [loosen, dropUnderscores_digit hc] at h
        obtain ⟨v, hv, rfl⟩ := Option.map_eq_some_iff.1 h
        obtain ⟨w, ds, r, u, rfl, hw, hr, hu, rfl⟩ := exists_runTail hv
        exact ⟨c :: w, d :: ds, r, u, rfl, .digits hc hw, hr, hu, rfl⟩
      | none =>
        refine ⟨[], [], c :: s, t, rfl, .nil, ?_, h, rfl⟩
        intro e he
        obtain rfl := Option.some.inj he
        refine ⟨?_, hc⟩
        rintro rfl
        rw [loosen, asciiDigits_other (by decide)] at h
        cases (dropUnderscores_underscore_eq_some h).1
  · rintro ⟨w, ds, r, u, rfl, hw, hr, hu, rfl⟩
    cases hw with
    | nil => exact hu
    | @digits c d s ds hd hw =>
      rw [loosen, List.cons_append, dropUnderscores_digit hd, hw.dropUnderscores_eq hr, hu]
      rfl

/-- The first character is kept, up to the script of a digit. -/
theorem head?_of_loosen (h : loosen s = some t) : t.head? = (asciiDigits s).head? := by
  unfold loosen at h
  cases hs : asciiDigits s with
  | nil =>
    rw [hs] at h
    obtain rfl := Option.some.inj h
    rfl
  | cons c r =>
    rw [hs] at h
    have hc : c ≠ '_' := by
      rintro rfl
      cases (dropUnderscores_underscore_eq_some h).1
    rw [dropUnderscores_cons hc] at h
    obtain ⟨u, -, rfl⟩ := Option.map_eq_some_iff.1 h
    rfl

theorem Stops.head?_of_loosen (hs : Stops s) (h : loosen s = some t) : t.head? = s.head? := by
  rw [Double.head?_of_loosen h]
  cases s with
  | nil => rfl
  | cons c r =>
    rw [asciiDigits_other (hs c rfl).2]
    rfl

/-! ## The digits at the front -/

theorem IsRun.digits_small (h : IsRun w ds) : ∀ d ∈ ds, ∃ c, digitValue? c = some d := by
  have htail : ∀ {w ds}, RunTail w ds → ∀ d ∈ ds, ∃ c, digitValue? c = some d := by
    intro w ds h
    induction h with
    | nil => simp
    | digit hd h ih => exact List.forall_mem_cons.2 ⟨⟨_, hd⟩, ih⟩
    | spaced hd h ih => exact List.forall_mem_cons.2 ⟨⟨_, hd⟩, ih⟩
  cases h with
  | nil => simp
  | digits hd h => exact List.forall_mem_cons.2 ⟨⟨_, hd⟩, htail h⟩

/-- The digits at the front of a text are those of its run. -/
theorem splitDigits_written (hw : IsRun w ds) (hr : Stops r) (h : loosen r = some t) :
    splitDigits (written ds ++ t) = (ds, t) := by
  have hdigits : ∀ c ∈ written ds, isAsciiDigit c = true := by
    intro c hc
    obtain ⟨d, hd, rfl⟩ := List.mem_map.1 hc
    obtain ⟨e, he⟩ := hw.digits_small d hd
    exact (asciiDigit_spec he).1
  have hend : t.takeWhile isAsciiDigit = [] ∧ t.dropWhile isAsciiDigit = t := by
    have hhead := hr.head?_of_loosen h
    cases t with
    | nil => exact ⟨rfl, rfl⟩
    | cons c t =>
      have hc : isAsciiDigit c = false := not_isAsciiDigit (hr c hhead.symm).2
      exact ⟨List.takeWhile_cons_of_neg (by simp [hc]), List.dropWhile_cons_of_neg (by simp [hc])⟩
  have hvalues : (written ds).map (fun c => c.toNat - 48) = ds := by
    rw [written, List.map_map, List.map_congr_left, List.map_id]
    intro d hd
    obtain ⟨e, he⟩ := hw.digits_small d hd
    exact (asciiDigit_spec he).2
  rw [splitDigits, List.takeWhile_append_of_pos hdigits, List.dropWhile_append_of_pos hdigits,
    hend.1, hend.2, List.append_nil, hvalues]

end InlineReview.Double
