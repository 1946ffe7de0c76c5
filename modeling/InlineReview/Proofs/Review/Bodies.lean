import InlineReview.Proofs.Text.Lines
import InlineReview.Review.Comment
import Mathlib.Data.List.TakeWhile

/-!
# What a body shows

The code of a suggestion stands in its body as it is, behind a line that opens a block of script and
before one that closes it.  Whoever reads the body takes the first line of three backticks for the
one that closes: of a code with such a line, only what is before that line is shown.  Where a code
holds what stands between the code and the explanation of another body, the two can be one body.

* `InlineComment.linesL_bodyOf` — the lines of a body.
* `InlineComment.showsScript_bodyOf` — the script that a body shows.
* `InlineComment.bodyOf_eq_iff` — when two suggestions have one body.
* `InlineComment.bodyOf_shows_iff` — when a body shows the code of its suggestion.
-/

namespace InlineReview

namespace Text

section Read

variable {α : Type} {p : α → Bool} {b : α}

/-- An item that ends a reading ends it wherever it stands. -/
theorem takeWhile_append_cons (s t : List α) (hb : ¬ p b) :
    (s ++ b :: t).takeWhile p = s.takeWhile p := by
  induction s with
  | nil => simp [hb]
  | cons a s ih => simp only [List.cons_append, List.takeWhile_cons, ih]

/-- Behind what is read stands the item that ends the reading. -/
theorem exists_takeWhile_append_cons (s t : List α) (hb : ¬ p b) :
    ∃ a r, s ++ b :: t = s.takeWhile p ++ a :: r ∧ ¬ p a := by
  induction s with
  | nil => exact ⟨b, t, rfl, hb⟩
  | cons c s ih =>
    by_cases hc : p c
    · obtain ⟨a, r, hread, ha⟩ := ih
      exact ⟨a, r, by rw [List.cons_append, hread, List.takeWhile_cons_of_pos hc]; rfl, ha⟩
    · exact ⟨c, s ++ b :: t, by rw [List.takeWhile_cons_of_neg hc]; rfl, hc⟩

end Read

section Parted

variable {c : Char} {r s s' t t' : List Char}

/-- Where a part that ends in a character of its own stands at the front of a text and again behind
some lead, the lead is empty or begins with all of the part. -/
theorem lead_of_append_part (hr : c ∉ r) (h : r ++ c :: t = s ++ (r ++ c :: t')) :
    (s = [] ∧ t = t') ∨ ∃ x, s = r ++ c :: x ∧ t = x ++ (r ++ c :: t') := by
  by_cases hc : c ∈ s
  · obtain ⟨front, x, rfl, hfront⟩ := List.eq_append_cons_of_mem hc
    rw [List.append_assoc, List.cons_append] at h
    obtain ⟨rfl, rfl⟩ := eq_of_append_cons hr hfront h
    exact .inr ⟨x, rfl, rfl⟩
  · have hfront : c ∉ s ++ r := by simp [hc, hr]
    rw [← List.append_assoc] at h
    obtain ⟨hsame, rfl⟩ := eq_of_append_cons hr hfront h
    exact .inl ⟨List.append_left_eq_self.1 hsame.symm, rfl⟩

/-- Two texts with such a part in them are one only if they have one text on each side of it, or the
part stands twice in the one text, and the other two are cut at it in different places. -/
theorem append_part_eq_iff (hr : c ∉ r) :
    s ++ (r ++ c :: t) = s' ++ (r ++ c :: t') ↔
      (s = s' ∧ t = t') ∨
        (∃ x, s' = s ++ (r ++ c :: x) ∧ t = x ++ (r ++ c :: t')) ∨
          ∃ x, s = s' ++ (r ++ c :: x) ∧ t' = x ++ (r ++ c :: t) := by
  constructor
  · intro h
    rcases List.append_eq_append_iff.1 h with ⟨y, rfl, hy⟩ | ⟨y, rfl, hy⟩
    · rcases lead_of_append_part hr hy with ⟨rfl, rfl⟩ | ⟨x, rfl, ht⟩
      · exact .inl ⟨(List.append_nil s).symm, rfl⟩
      · exact .inr (.inl ⟨x, rfl, ht⟩)
    · rcases lead_of_append_part hr hy with ⟨rfl, rfl⟩ | ⟨x, rfl, ht⟩
      · exact .inl ⟨List.append_nil s', rfl⟩
      · exact .inr (.inr ⟨x, rfl, ht⟩)
  · rintro (⟨rfl, rfl⟩ | ⟨x, rfl, rfl⟩ | ⟨x, rfl, rfl⟩)
    · rfl
    · simp
    · simp

end Parted

end Text

namespace InlineComment

open Text

/-! ## The parts of a body -/

/-- The line that opens a block of script. -/
def scriptLine : List Char := Fence.ticks ++ "js".toList

/-- What stands between the code and the explanation. -/
def closing : String := "\n```\n\n📌 "

/-- What stands before the newline of the line that opens the block. -/
def lead (message rule : Json) : List Char :=
  (header message rule).toList ++ "💡 **AI Suggestion:**\n".toList

theorem header_eq (message rule : Json) : header message rule =
    if rule.isGiven then
      "**ESLint [" ++ rule.text ++ "](" ++ ruleDocs ++ rule.text ++ ")**: " ++ message.text ++ "\n\n"
    else "**ESLint**: " ++ message.text ++ "\n\n" := rfl

theorem advice_eq (s : Suggestion) : advice s =
    "💡 **AI Suggestion:**\n" ++ ("\n```js\n" ++ s.code ++ closing ++ s.explanation ++ "\n") := rfl

theorem toList_bodyOf (message rule : Json) (s : Suggestion) :
    (bodyOf message rule (some s)).toList =
      lead message rule ++ '\n' :: (scriptLine ++ '\n' ::
        (s.code.toList ++ (closing.toList ++ (s.explanation.toList ++ ['\n'])))) := by
  have hopening : "\n```js\n".toList = '\n' :: (scriptLine ++ ['\n']) := by decide +kernel
  have hend : "\n".toList = ['\n'] := by decide +kernel
  simp only [bodyOf, advice_eq, lead, String.toList_append, hopening, hend, List.append_assoc,
    List.cons_append, List.nil_append]

theorem tick_not_mem_lead {message rule : Json} (hmessage : '\x60' ∉ message.text.toList)
    (hrule : '\x60' ∉ rule.text.toList) : '\x60' ∉ lead message rule := by
  rw [lead, header_eq]
  split
  · simp [hmessage, hrule, ruleDocs]
  · simp [hmessage]

/-- The lines of a body: that which opens the block, those of the code, and that which closes it. -/
theorem linesL_bodyOf (message rule : Json) (s : Suggestion) :
    ∃ after, linesL (bodyOf message rule (some s)).toList =
      linesL (lead message rule) ++ scriptLine :: (linesL s.code.toList ++ Fence.ticks :: after) := by
  have hclosing : closing.toList = '\n' :: (Fence.ticks ++ '\n' :: "\n📌 ".toList) := by
    decide +kernel
  have hscript : '\n' ∉ scriptLine := by decide +kernel
  have hticks : '\n' ∉ Fence.ticks := by decide +kernel
  refine ⟨linesL ("\n📌 ".toList ++ (s.explanation.toList ++ ['\n'])), ?_⟩
  rw [toList_bodyOf, hclosing]
  simp only [linesL, List.cons_append, List.append_assoc, pieces_append_sep,
    pieces_of_not_mem hscript, pieces_of_not_mem hticks, List.nil_append]

/-! ## The script that is shown -/

/-- Does a line begin with three backticks? -/
def IsFence (line : List Char) : Prop := Fence.ticks <+: line

instance : DecidablePred IsFence := fun line => inferInstanceAs (Decidable (Fence.ticks <+: line))

/-- The script that a text shows: the lines between the first one that opens a block of script and
the next one that begins with three backticks. -/
inductive ShowsScript (text : List Char) : List Char → Prop
  | intro {before between after : List (List Char)} {fence : List Char}
      (hlines : linesL text = before ++ scriptLine :: (between ++ fence :: after))
      (hfirst : scriptLine ∉ before) (hbetween : ∀ l ∈ between, ¬ IsFence l)
      (hfence : IsFence fence) : ShowsScript text (unlinesL between)

/-- The lines of a code before the first one that begins with three backticks. -/
def openLines (code : List Char) : List (List Char) :=
  (linesL code).takeWhile fun l => ¬ IsFence l

theorem isFence_ticks : IsFence Fence.ticks := List.prefix_rfl

theorem not_isFence_of_mem_openLines {code l : List Char} (h : l ∈ openLines code) :
    ¬ IsFence l := by
  simpa using List.mem_takeWhile_imp h

/-- A code of which no line begins with three backticks is read to its end. -/
theorem openLines_eq_linesL_iff {code : List Char} :
    openLines code = linesL code ↔ ∀ l ∈ linesL code, ¬ IsFence l := by
  simp [openLines, List.takeWhile_eq_self_iff]

/-- Lines of a code are the whole of it only if they are all. -/
theorem unlinesL_openLines_eq_iff {code : List Char} :
    unlinesL (openLines code) = code ↔ ∀ l ∈ linesL code, ¬ IsFence l := by
  rw [← openLines_eq_linesL_iff]
  constructor
  · intro h
    by_cases hnil : openLines code = []
    · -- The lines of an empty text are one line, which is empty.
      rw [hnil] at h
      subst h
      decide
    · have hfree : ∀ l ∈ openLines code, '\n' ∉ l := fun l hl =>
        not_mem_of_mem_pieces ((List.takeWhile_prefix _).mem hl)
      calc openLines code = linesL (unlinesL (openLines code)) := (pieces_joinWith hnil hfree).symm
        _ = linesL code := by rw [h]
  · intro h
    rw [h]
    exact joinWith_pieces '\n' code

section Shown

variable {text script code : List Char} {before after : List (List Char)}

/-- Up to the next line that begins with three backticks there are the lines of the code before one
of its own. -/
theorem showsScript_iff (hfirst : scriptLine ∉ before)
    (hlines : linesL text = before ++ scriptLine :: (linesL code ++ Fence.ticks :: after)) :
    ShowsScript text script ↔ script = unlinesL (openLines code) := by
  constructor
  · rintro @⟨before', between, after', fence, hlines', hfirst', hbetween, hfence⟩
    rw [hlines] at hlines'
    obtain ⟨-, hrest⟩ := eq_of_append_cons hfirst hfirst' hlines'
    have hread : openLines code = between := by
      calc openLines code = (linesL code ++ Fence.ticks :: after).takeWhile (¬ IsFence ·) :=
            (takeWhile_append_cons _ _ (by simpa using isFence_ticks)).symm
        _ = between.takeWhile (¬ IsFence ·) := by
            rw [hrest]
            exact takeWhile_append_cons _ _ (by simpa using hfence)
        _ = between := List.takeWhile_eq_self_iff.2 (by simpa using hbetween)
    rw [hread]
  · rintro rfl
    obtain ⟨fence, after', hread, hfence⟩ := exists_takeWhile_append_cons
      (p := fun l => ¬ IsFence l) (linesL code) after (by simpa using isFence_ticks)
    rw [hread] at hlines
    exact ⟨hlines, hfirst, fun l => not_isFence_of_mem_openLines, by simpa using hfence⟩

theorem scriptLine_not_mem_linesL_lead {message rule : Json}
    (hmessage : '\x60' ∉ message.text.toList) (hrule : '\x60' ∉ rule.text.toList) :
    scriptLine ∉ linesL (lead message rule) := by
  intro h
  have htick : '\x60' ∈ scriptLine := by decide +kernel
  exact tick_not_mem_lead hmessage hrule (mem_of_mem_pieces h htick)

/-- A body shows the lines of its code before the first that begins with three backticks. -/
theorem showsScript_bodyOf {message rule : Json} {s : Suggestion}
    (hmessage : '\x60' ∉ message.text.toList) (hrule : '\x60' ∉ rule.text.toList) :
    ShowsScript (bodyOf message rule (some s)).toList script ↔
      script = unlinesL (openLines s.code.toList) := by
  obtain ⟨after, hlines⟩ := linesL_bodyOf message rule s
  exact showsScript_iff (scriptLine_not_mem_linesL_lead hmessage hrule) hlines

end Shown

/-! ## Suggestions with one body -/

/-- Two suggestions are cut differently at one text that stands twice in it: the code of the second
goes on beyond that of the first, with what stands between the two parts of a body and the beginning
of the explanation. -/
def Shifts (s s' : Suggestion) : Prop :=
  ∃ x : String, s'.code = s.code ++ closing ++ x ∧ s.explanation = x ++ closing ++ s'.explanation

/-- What closes a code up to the space in front of the explanation, which occurs nowhere else in
it. -/
def closingMark : List Char := "\n```\n\n📌".toList

theorem toList_closing : closing.toList = closingMark ++ [' '] := by decide +kernel

theorem space_not_mem_closingMark : ' ' ∉ closingMark := by decide +kernel

theorem shifts_iff {s s' : Suggestion} :
    Shifts s s' ↔ ∃ x : List Char,
      s'.code.toList = s.code.toList ++ (closingMark ++ ' ' :: x) ∧
      s.explanation.toList = x ++ (closingMark ++ ' ' :: s'.explanation.toList) := by
  simp only [Shifts, ← String.toList_inj, String.toList_append, toList_closing, List.append_assoc,
    List.singleton_append]
  constructor
  · rintro ⟨x, hcode, hexplanation⟩
    exact ⟨x.toList, hcode, hexplanation⟩
  · rintro ⟨x, hcode, hexplanation⟩
    exact ⟨String.ofList x, by simpa using hcode, by simpa using hexplanation⟩

/-- Two suggestions have one body only if they are one, or are cut differently. -/
theorem bodyOf_eq_iff (message rule : Json) (s s' : Suggestion) :
    bodyOf message rule (some s) = bodyOf message rule (some s') ↔
      s = s' ∨ Shifts s s' ∨ Shifts s' s := by
  have hparts : ∀ u : Suggestion, (bodyOf message rule (some u)).toList =
      (lead message rule ++ '\n' :: (scriptLine ++ ['\n'])) ++
        (u.code.toList ++ (closingMark ++ ' ' :: u.explanation.toList)) ++ ['\n'] := by
    intro u
    simp [toList_bodyOf, toList_closing]
  have hbody : bodyOf message rule (some s) = bodyOf message rule (some s') ↔
      s.code.toList ++ (closingMark ++ ' ' :: s.explanation.toList) =
        s'.code.toList ++ (closingMark ++ ' ' :: s'.explanation.toList) := by
    rw [← String.toList_inj, hparts, hparts, List.append_cancel_right_eq,
      List.append_cancel_left_eq]
  have hsame : s = s' ↔
      s.code.toList = s'.code.toList ∧ s.explanation.toList = s'.explanation.toList := by
    rw [String.toList_inj, String.toList_inj, Suggestion.mk.injEq]
  rw [hbody, hsame, shifts_iff, shifts_iff]
  exact append_part_eq_iff space_not_mem_closingMark

/-- With neither backticks in what the linter says nor in the name of the rule, a body shows the
lines of its code before the first that begins with three backticks, and so the whole code exactly
if there is none.  Bodies of one finding tell two suggestions apart unless these are cut differently
at what stands between a code and an explanation. -/
theorem bodyOf_shows_iff (message rule : Json) (s : Suggestion)
    (hmessage : '\x60' ∉ message.text.toList) (hrule : '\x60' ∉ rule.text.toList) :
    (∀ script, ShowsScript (bodyOf message rule (some s)).toList script ↔
      script = unlinesL (openLines s.code.toList)) ∧
    (ShowsScript (bodyOf message rule (some s)).toList s.code.toList ↔
      ∀ l ∈ linesL s.code.toList, ¬ IsFence l) ∧
    ∀ s', bodyOf message rule (some s) = bodyOf message rule (some s') ↔
      s = s' ∨ Shifts s s' ∨ Shifts s' s := by
  have hshown (script : List Char) : ShowsScript (bodyOf message rule (some s)).toList script ↔
      script = unlinesL (openLines s.code.toList) := showsScript_bodyOf hmessage hrule
  refine ⟨hshown, ?_, bodyOf_eq_iff message rule s⟩
  rw [hshown, eq_comm]
  exact unlinesL_openLines_eq_iff

/-- A code with backticks inside of its lines is shown as it is. -/
theorem bodyOf_inlineBackticks :
    let message := Json.str "Unexpected var."
    let rule := Json.str "no-var"
    let s : Suggestion := { code := "let s = `a`\n  ```", explanation := "It has a scope." }
    ('\x60' ∉ message.text.toList ∧ '\x60' ∉ rule.text.toList) ∧
    ShowsScript (bodyOf message rule (some s)).toList s.code.toList := by
  have hmessage : '\x60' ∉ (Json.str "Unexpected var.").text.toList := by decide +kernel
  have hrule : '\x60' ∉ (Json.str "no-var").text.toList := by decide +kernel
  refine ⟨⟨hmessage, hrule⟩, ?_⟩
  exact (bodyOf_shows_iff _ _ _ hmessage hrule).2.1.2 (by decide +kernel)

/-- Of a code with a fence in it only what is before the fence is shown, and the body is that of
another suggestion, of which the code ends there. -/
theorem bodyOf_fencedCode :
    let message := Json.str "Unexpected var."
    let rule := Json.str "no-var"
    let s : Suggestion := { code := "a\n```\n\n📌 b", explanation := "c" }
    let s' : Suggestion := { code := "a", explanation := "b\n```\n\n📌 c" }
    ('\x60' ∉ message.text.toList ∧ '\x60' ∉ rule.text.toList) ∧
    ShowsScript (bodyOf message rule (some s)).toList "a".toList ∧
    ¬ ShowsScript (bodyOf message rule (some s)).toList s.code.toList ∧
    s ≠ s' ∧ bodyOf message rule (some s) = bodyOf message rule (some s') := by
  have hmessage : '\x60' ∉ (Json.str "Unexpected var.").text.toList := by decide +kernel
  have hrule : '\x60' ∉ (Json.str "no-var").text.toList := by decide +kernel
  refine ⟨⟨hmessage, hrule⟩, ?_, ?_, by decide +kernel, by decide +kernel⟩
  · exact (showsScript_bodyOf hmessage hrule).2 (by decide +kernel)
  · rw [showsScript_bodyOf hmessage hrule]
    decide +kernel

end InlineComment

end InlineReview
