import InlineReview.Proofs.Json.Quoting
import InlineReview.Proofs.Text.Trimming
import InlineReview.Suggestion.Answer

/-!
# Where a block opens

A block opens at three backticks with a newline after them, and neither a quote nor a backslash is
between the two.  Backticks in a document stand in a string and newlines do not, so that no block
opens in it; a block that is put around a document ends at the next three backticks, be they those
behind the document or some in one of its strings.

* `Fence.body?_eq_none_of_tidy`, `Fence.body?_document` — no block opens in a document.
* `Fence.body?_append`, `Fence.body?_opening` — the body of a block ends before the next three
  backticks.
-/

namespace InlineReview

open Text

/-! ## Blanks around a text -/

section Blanks

variable {lead s trail : List Char}

/-- Blanks are tidy between strings. -/
theorem Json.tidy_blanks (h : ∀ c ∈ s, isBlank c = true) : Json.Tidy .between s .between := by
  apply Json.tidy_between
  intro c hc
  have hblank := h c hc
  constructor
  · rintro rfl
    exact absurd hblank (by decide)
  · rintro rfl
    exact absurd hblank (by decide)

/-- A document with blanks around it is tidy. -/
theorem Json.tidy_document {v : Json} (h : Json.readL s = .ok v)
    (hlead : ∀ c ∈ lead, isBlank c = true) (htrail : ∀ c ∈ trail, isBlank c = true) :
    Json.Tidy .between (lead ++ s ++ trail) .between := by
  have hfront : Json.Tidy .between (lead ++ s) .between :=
    Json.tidy_append.2 ⟨.between, Json.tidy_blanks hlead, Json.tidy_of_readL h⟩
  exact Json.tidy_append.2 ⟨.between, hfront, Json.tidy_blanks htrail⟩

end Blanks

namespace Fence

/-! ## Openings -/

theorem exists_of_afterLineEnd? {s r : List Char} (h : afterLineEnd? s = some r) :
    ∃ u, s = u ++ '\n' :: r ∧ ∀ c ∈ u, c ≠ '\x22' ∧ c ≠ '\x5c' := by
  unfold afterLineEnd? at h
  split at h
  · obtain rfl := Option.some_inj.1 h
    exact ⟨[], rfl, by simp⟩
  · obtain rfl := Option.some_inj.1 h
    exact ⟨['\r'], rfl, by simp⟩
  · cases h

/-- The word after the backticks may be left out. -/
theorem exists_of_language (s : List Char) :
    ∃ w, s = w ++ (dropLead? language s).getD s ∧ ∀ c ∈ w, c ≠ '\x22' ∧ c ≠ '\x5c' := by
  cases h : dropLead? language s with
  | none => exact ⟨[], rfl, by simp⟩
  | some r => exact ⟨language, eq_append_of_dropLead? h, by simp [language]⟩

/-- Between the backticks of an opening and its newline there is no quote and no backslash. -/
theorem exists_of_afterOpening? {s r : List Char} (h : afterOpening? s = some r) :
    ∃ u, s = ticks ++ (u ++ '\n' :: r) ∧ ∀ c ∈ u, c ≠ '\x22' ∧ c ≠ '\x5c' := by
  obtain ⟨opened, hticks, hline⟩ := Option.bind_eq_some_iff.1 h
  obtain ⟨w, hopened, hw⟩ := exists_of_language opened
  obtain ⟨e, hend, he⟩ := exists_of_afterLineEnd? hline
  let isGap : Char → Bool := fun c => c = ' ' || c = '\t'
  have hgap : ∀ c ∈ ((dropLead? language opened).getD opened).takeWhile isGap,
      c ≠ '\x22' ∧ c ≠ '\x5c' := by
    intro c hc
    have hspace : c = ' ' ∨ c = '\t' := by simpa [isGap] using List.mem_takeWhile_imp hc
    rcases hspace with rfl | rfl
    · decide
    · decide
  refine ⟨w ++ (((dropLead? language opened).getD opened).takeWhile isGap ++ e), ?_, ?_⟩
  · have hrest : (dropLead? language opened).getD opened =
        ((dropLead? language opened).getD opened).takeWhile isGap ++ (e ++ '\n' :: r) := by
      rw [← hend]
      exact List.takeWhile_append_dropWhile.symm
    rw [eq_append_of_dropLead? hticks, List.append_assoc, List.append_assoc, ← hrest, ← hopened]
  · intro c hc
    rcases List.mem_append.1 hc with hc | hc
    · exact hw c hc
    · rcases List.mem_append.1 hc with hc | hc
      · exact hgap c hc
      · exact he c hc

/-- No block opens in a tidy text. -/
theorem afterOpening?_eq_none_of_tidy {z z' : Json.Zone} {s : List Char} (h : Json.Tidy z s z') :
    afterOpening? s = none := by
  cases hopening : afterOpening? s with
  | none => rfl
  | some r =>
    obtain ⟨u, rfl, hu⟩ := exists_of_afterOpening? hopening
    obtain ⟨x, hx, hrest⟩ := Json.tidy_append.1 h
    obtain ⟨y, hy, hnewline⟩ := Json.tidy_append.1 hrest
    have hwithin : x = .within := by
      cases z with
      | between => cases hx
      | within => exact (Option.some_inj.1 hx).symm
      | escape => exact (Option.some_inj.1 hx).symm
    rw [hwithin] at hy
    rw [hy.within_eq hu] at hnewline
    cases hnewline

theorem body?_eq_none_of_tidy {z z' : Json.Zone} {s : List Char} (h : Json.Tidy z s z') :
    body? s = none := by
  induction s generalizing z with
  | nil => rfl
  | cons c s ih =>
    have hhere : bodyHere? (c :: s) = none := by
      rw [bodyHere?, afterOpening?_eq_none_of_tidy h]
      rfl
    obtain ⟨y, -, htail⟩ := Json.tidy_cons.1 h
    rw [body?, hhere]
    exact ih htail

/-- No block opens in a document, whatever blanks are around it. -/
theorem body?_document {lead s trail : List Char} {v : Json} (h : Json.readL s = .ok v)
    (hlead : ∀ c ∈ lead, isBlank c = true) (htrail : ∀ c ∈ trail, isBlank c = true) :
    body? (lead ++ s ++ trail) = none :=
  body?_eq_none_of_tidy (Json.tidy_document h hlead htrail)

/-! ## Blocks -/

/-- A text without backticks before an opening holds no other one. -/
theorem body?_append {before : List Char} (s : List Char) (h : '\x60' ∉ before) :
    body? (before ++ s) = body? s := by
  induction before with
  | nil => rfl
  | cons c r ih =>
    have hc : '\x60' ≠ c := by
      rintro rfl
      exact h List.mem_cons_self
    have hhere : bodyHere? (c :: (r ++ s)) = none := by
      simp [bodyHere?, afterOpening?, ticks, dropLead?, hc]
    rw [List.cons_append, body?, hhere]
    apply ih
    intro hmem
    exact h (List.mem_cons_of_mem c hmem)

/-- The body of a block ends before the next three backticks. -/
theorem body?_opening {s r body rest : List Char} (hopening : afterOpening? s = some r)
    (hbreak : breakOn? ticks r = some (body, rest)) : body? s = some body := by
  have hhere : bodyHere? s = some body := by
    rw [bodyHere?, hopening, Option.bind_eq_bind, Option.bind_some, hbreak]
    rfl
  cases s with
  | nil => cases hhere
  | cons c s => rw [body?, hhere]

end Fence

end InlineReview
