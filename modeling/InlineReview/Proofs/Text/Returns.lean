import InlineReview.Proofs.Text.Lines
import InlineReview.Text.Utf8
import Mathlib.Data.List.Forall2

/-!
# Carriage returns before newlines

A file that is read as text has no carriage returns any more.  Where each of them stands before a
newline, its lines are those between newlines, each without the carriage return at its end.  In a
text that is only cut at newlines, a carriage return put before one of them stays at the end of a
line, where a search does not find more for it.

* `Utf8.decodeReplacing_of_decode` — nothing is replaced in octets that can be read.
* `linesL_unifyNewlines` — the lines of a text whose carriage returns stand before newlines.
* `ReturnsPut.lines` — the lines of a text into which carriage returns are put.
* `breakOn?_append_singleton` — a search in a text with one more character at its end.
-/

namespace InlineReview.Text

/-! ## Octets that can be read -/

/-- Pieces without a flaw are read alike by a strict and by a lenient reader. -/
theorem replaced_of_strictly {encoding : String} {start : Nat} {octets : List UInt8}
    {ps : List Piece} {s : List Char} (h : strictly encoding start octets ps = .ok s) :
    replaced ps = s := by
  induction ps generalizing start octets s with
  | nil =>
    obtain rfl : [] = s := Except.ok.inj h
    rfl
  | cons p ps ih =>
    cases p with
    | char c n =>
      rw [strictly] at h
      cases hrest : strictly encoding (start + n) (octets.drop n) ps with
      | error fault =>
        rw [hrest] at h
        cases h
      | ok r =>
        rw [hrest] at h
        obtain rfl : c :: r = s := Except.ok.inj h
        rw [← ih hrest]
        rfl
    | pair c d n =>
      rw [strictly] at h
      cases hrest : strictly encoding (start + n) (octets.drop n) ps with
      | error fault =>
        rw [hrest] at h
        cases h
      | ok r =>
        rw [hrest] at h
        obtain rfl : c :: d :: r = s := Except.ok.inj h
        rw [← ih hrest]
        rfl
    | flawed why n => cases h

/-- Nothing is replaced in octets that can be read. -/
theorem Utf8.decodeReplacing_of_decode {octets : List UInt8} {s : List Char}
    (h : Utf8.decode octets = .ok s) : Utf8.decodeReplacing octets = s :=
  replaced_of_strictly h

/-! ## Lines -/

/-- Does every carriage return stand before a newline? -/
def ReturnsEndLines (s : List Char) : Prop :=
  ∀ before after, s = before ++ '\r' :: after → after.head? = some '\n'

/-- A line without the carriage return at its end. -/
def withoutReturn (l : List Char) : List Char :=
  if l.getLast? = some '\r' then l.dropLast else l

theorem ReturnsEndLines.of_cons {c : Char} {s : List Char} (h : ReturnsEndLines (c :: s)) :
    ReturnsEndLines s := by
  intro before after hs
  exact h (c :: before) after (by rw [hs, List.cons_append])

theorem withoutReturn_cons {c : Char} (hc : c ≠ '\r') (l : List Char) :
    withoutReturn (c :: l) = c :: withoutReturn l := by
  cases l with
  | nil => simp [withoutReturn, hc]
  | cons d l =>
    have hlast : (c :: d :: l).getLast? = (d :: l).getLast? := List.getLast?_cons_cons
    unfold withoutReturn
    rw [hlast]
    split
    · rfl
    · rfl

theorem linesL_newline_cons (s : List Char) : linesL ('\n' :: s) = [] :: linesL s := by
  simp [linesL, pieces, piecesWhere]

theorem linesL_cons {c : Char} (hc : c ≠ '\n') (s : List Char) :
    linesL (c :: s) = (linesL s).modifyHead (c :: ·) := by
  cases hs : linesL s with
  | nil => exact absurd hs (piecesWhere_ne_nil _ s)
  | cons l ls =>
    have hpieces : piecesWhere (· == '\n') s = l :: ls := hs
    simp [linesL, pieces, piecesWhere, hc, hpieces]

/-- The lines of a text whose carriage returns stand before newlines are those between newlines,
without the carriage returns at their ends. -/
theorem linesL_unifyNewlines {s : List Char} (h : ReturnsEndLines s) :
    linesL (unifyNewlines s) = (linesL s).map withoutReturn := by
  induction s using unifyNewlines.induct with
  | case1 => rfl
  | case2 r ih =>
    have hrest : linesL (unifyNewlines r) = (linesL r).map withoutReturn := ih h.of_cons.of_cons
    have hread : unifyNewlines ('\r' :: '\n' :: r) = '\n' :: unifyNewlines r := rfl
    rw [hread, linesL_newline_cons, linesL_cons (by decide), linesL_newline_cons, hrest]
    rfl
  | case3 c r hpair ih =>
    have hrest : linesL (unifyNewlines r) = (linesL r).map withoutReturn := ih h.of_cons
    -- a carriage return would have a newline after it, and is no single character then
    have hreturn : c ≠ '\r' := by
      rintro rfl
      obtain ⟨t, rfl⟩ := List.head?_eq_some_iff.1 (h [] r rfl)
      exact hpair t rfl rfl
    have hread : unifyNewlines (c :: r) = c :: unifyNewlines r := by
      rw [unifyNewlines, if_neg hreturn]
      exact hpair
    rw [hread]
    by_cases hc : c = '\n'
    · rw [hc, linesL_newline_cons, linesL_newline_cons, hrest]
      rfl
    · rw [linesL_cons hc, linesL_cons hc, hrest]
      cases linesL r with
      | nil => rfl
      | cons l ls => simp [withoutReturn_cons hreturn]

/-- A text with carriage returns put before some of its newlines. -/
inductive ReturnsPut : List Char → List Char → Prop
  | nil : ReturnsPut [] []
  | keep {s t : List Char} (c : Char) (rest : ReturnsPut s t) : ReturnsPut (c :: s) (c :: t)
  | put {s t : List Char} (rest : ReturnsPut s t) : ReturnsPut ('\n' :: s) ('\r' :: '\n' :: t)

/-- Is a line another one, as it is or with a carriage return at its end? -/
def IsReturned (line other : List Char) : Prop := other = line ∨ other = line ++ ['\r']

theorem IsReturned.cons {line other : List Char} (h : IsReturned line other) (c : Char) :
    IsReturned (c :: line) (c :: other) := by
  rcases h with rfl | rfl
  · exact .inl rfl
  · exact .inr rfl

/-- Carriage returns before newlines stand at the ends of lines. -/
theorem ReturnsPut.lines {s t : List Char} (h : ReturnsPut s t) :
    List.Forall₂ IsReturned (linesL s) (linesL t) := by
  induction h with
  | nil => exact .cons (.inl rfl) .nil
  | @keep s t c _ ih =>
    by_cases hc : c = '\n'
    · rw [hc, linesL_newline_cons, linesL_newline_cons]
      exact .cons (.inl rfl) ih
    · rw [linesL_cons hc, linesL_cons hc]
      revert ih
      generalize linesL s = ls, linesL t = ks
      rintro (_ | ⟨hhead, htail⟩)
      · exact .nil
      · exact .cons (hhead.cons c) htail
  | @put s t _ ih =>
    rw [linesL_newline_cons, linesL_cons (by decide), linesL_newline_cons]
    exact .cons (.inr rfl) ih

theorem ReturnsPut.append_left {s t : List Char} (h : ReturnsPut s t) (lead : List Char) :
    ReturnsPut (lead ++ s) (lead ++ t) := by
  induction lead with
  | nil => exact h
  | cons c lead ih => exact .keep c ih

theorem ReturnsPut.eq_nil_iff {s t : List Char} (h : ReturnsPut s t) : t = [] ↔ s = [] := by
  cases h <;> simp

theorem ReturnsPut.getLast? {s t : List Char} (h : ReturnsPut s t) : t.getLast? = s.getLast? := by
  induction h with
  | nil => rfl
  | keep c _ ih => rw [List.getLast?_cons, List.getLast?_cons, ih]
  | put _ ih => rw [List.getLast?_cons_cons, List.getLast?_cons, List.getLast?_cons, ih]

/-! ## Searching before a carriage return -/

theorem dropLead?_append_cons {needle : List Char} {c : Char} (hc : c ∉ needle) (s r : List Char) :
    dropLead? needle (s ++ c :: r) = (dropLead? needle s).map (· ++ c :: r) := by
  induction needle generalizing s with
  | nil => rfl
  | cons a needle ih =>
    have hac : a ≠ c := fun heq => hc (heq ▸ List.mem_cons_self)
    have hrest : c ∉ needle := fun hmem => hc (List.mem_cons_of_mem a hmem)
    cases s with
    | nil => simp [dropLead?, hac]
    | cons d s =>
      by_cases had : a = d
      · simp [dropLead?, had, ih hrest]
      · simp [dropLead?, had]

/-- A character that is not in a needle, put behind a text, comes to what follows the needle. -/
theorem breakOn?_append_singleton {a c : Char} {needle : List Char} (hc : c ∉ a :: needle)
    (s : List Char) :
    breakOn? (a :: needle) (s ++ [c]) =
      (breakOn? (a :: needle) s).map fun parts => (parts.1, parts.2 ++ [c]) := by
  induction s with
  | nil =>
    have hac : a ≠ c := fun heq => hc (heq ▸ List.mem_cons_self)
    simp [breakOn?, dropLead?, hac]
  | cons d s ih =>
    have hlead := dropLead?_append_cons hc (d :: s) []
    rw [List.cons_append] at hlead
    rw [List.cons_append, breakOn?, breakOn?, hlead, ih]
    cases dropLead? (a :: needle) (d :: s) with
    | some rest => rfl
    | none => cases breakOn? (a :: needle) s <;> rfl

end InlineReview.Text
