import InlineReview.Proofs.Suggestion.Entries

/-!
# Answers in a block

An answer in a block is cut off at the first three backticks after the opening, even where they
stand in one of its strings.  It is read as the same answer without a block exactly if it holds no
three backticks; a written answer holds them exactly if some code or explanation in it does.

* `Answer.read_opened_iff` — when a block around a spelled answer does not matter.
* `Answer.ticks_infix_written` — where three backticks stand in a written answer.
* `Answer.read_block_iff` — when a block around a written answer does not matter.
* `Answer.read_ticksBlock` — an answer that is cut off.
-/

namespace InlineReview

open Text

/-! ## Blocks around a text -/

namespace Fence

variable {before s t after : List Char}

/-- A text in a block, with a word after the opening backticks. -/
def block (word t : List Char) : List Char := ticks ++ word ++ '\n' :: (t ++ '\n' :: ticks)

theorem afterOpening?_language (r : List Char) :
    afterOpening? (ticks ++ language ++ '\n' :: r) = some r := rfl

theorem afterOpening?_ticks (r : List Char) : afterOpening? (ticks ++ [] ++ '\n' :: r) = some r :=
  rfl

/-- Where a text holds no three backticks, those in front of which it stands with a newline are
behind it. -/
theorem length_le_of_tickFree {r b q : List Char} (ht : ¬ ticks <:+: t)
    (h : t ++ '\n' :: r = b ++ (ticks ++ q)) : (t ++ ['\n']).length ≤ b.length := by
  have hnewline : '\n' ∉ ticks := by decide
  by_contra hlt
  have hle : b.length ≤ t.length := by
    rw [List.length_append, List.length_singleton] at hlt
    omega
  have hdrop : t.drop b.length ++ '\n' :: r = ticks ++ q := by
    rw [← List.drop_append_of_le_length hle, h, List.drop_left]
  obtain ⟨q', hq'⟩ : ticks <+: t.drop b.length :=
    (isPrefix_append_cons r hnewline).1 ⟨q, hdrop.symm⟩
  apply ht
  exact ⟨t.take b.length, q', by rw [List.append_assoc, hq', List.take_append_drop]⟩

/-- A text without three backticks is the fragment of a block around it. -/
theorem fragmentL_of_tickFree (hbefore : '\x60' ∉ before)
    (hopening : afterOpening? s = some (t ++ '\n' :: (ticks ++ after))) (ht : ¬ ticks <:+: t) :
    fragmentL (before ++ s) = t ++ ['\n'] := by
  have hbreak : breakOn? ticks (t ++ '\n' :: (ticks ++ after)) = some (t ++ ['\n'], after) := by
    apply breakOn?_eq_some_iff.2
    constructor
    · simp
    · intro b r heq
      rw [List.append_assoc] at heq
      exact length_le_of_tickFree ht heq
  rw [fragmentL, body?_append s hbefore, body?_opening hopening hbreak, Option.getD_some]

/-- A text with three backticks is cut off before a backtick. -/
theorem exists_fragmentL_of_ticks (hbefore : '\x60' ∉ before)
    (hopening : afterOpening? s = some (t ++ '\n' :: (ticks ++ after))) (ht : ticks <:+: t) :
    ∃ r, t = fragmentL (before ++ s) ++ '\x60' :: r := by
  obtain ⟨p, q, rfl⟩ := ht
  obtain ⟨b, rest, hbreak⟩ := exists_breakOn? ticks p (q ++ '\n' :: (ticks ++ after))
  have htext : p ++ ticks ++ q ++ '\n' :: (ticks ++ after) =
      p ++ (ticks ++ (q ++ '\n' :: (ticks ++ after))) := by simp
  obtain ⟨hparts, hfirst⟩ := breakOn?_eq_some_iff.1 hbreak
  have hle : b.length ≤ p.length := hfirst p _ (List.append_assoc _ _ _).symm
  rw [List.append_assoc] at hparts
  obtain ⟨u, rfl⟩ : b <+: p :=
    List.prefix_of_prefix_length_le ⟨_, hparts.symm⟩ (List.prefix_append p _) hle
  rw [htext] at hopening
  have hfragment : fragmentL (before ++ s) = b := by
    rw [fragmentL, body?_append s hbefore, body?_opening hopening hbreak, Option.getD_some]
  rw [hfragment]
  cases u with
  | nil => exact ⟨'\x60' :: '\x60' :: q, by simp [ticks]⟩
  | cons c u =>
    have htail : c :: u ++ (ticks ++ (q ++ '\n' :: (ticks ++ after))) = ticks ++ rest := by
      rw [List.append_assoc] at hparts
      exact List.append_cancel_left hparts
    obtain ⟨rfl, -⟩ := List.cons.inj htail
    exact ⟨u ++ ticks ++ q, by simp⟩

end Fence

/-! ## Blocks around a spelled answer -/

namespace Answer

/-- An answer in a block is read as it is without one exactly if it holds no three backticks. -/
theorem read_opened_iff {entries : List Entry} {before s t after : List Char}
    (h : Json.Spells Json.nestingLimit (.value (envelope entries)) t) (hbefore : '\x60' ∉ before)
    (hopening : Fence.afterOpening? s = some (t ++ '\n' :: (Fence.ticks ++ after))) :
    read (String.ofList (before ++ s)) = read (String.ofList t) ↔ ¬ Fence.ticks <:+: t := by
  have hnil : ∀ c ∈ ([] : List Char), isBlank c = true := by simp
  have hraw := read_blanks h hnil hnil
  rw [List.nil_append, List.append_nil] at hraw
  rw [hraw]
  constructor
  · intro hread hticks
    obtain ⟨v, hv, -⟩ := read_eq_suggestions_iff.1 hread
    rw [String.toList_ofList] at hv
    obtain ⟨r, hr⟩ := Fence.exists_fragmentL_of_ticks hbefore hopening hticks
    -- the answer is cut off in a string, and no document ends there
    obtain ⟨lead, trail, htrimmed, hlead, htrail⟩ := exists_trimL (Fence.fragmentL (before ++ s))
    have hended : Json.Tidy .between (Fence.fragmentL (before ++ s)) .between := by
      rw [htrimmed]
      exact Json.tidy_document hv hlead htrail
    have hwhole := Json.tidy_of_readL h.readL
    rw [hr] at hwhole
    obtain ⟨z, hz, htick⟩ := Json.tidy_append.1 hwhole
    rw [← hended.unique hz] at htick
    obtain ⟨y, hy, -⟩ := Json.tidy_cons.1 htick
    cases hy
  · intro hticks
    apply read_of_trimL h
    rw [Fence.fragmentL_of_tickFree hbefore hopening hticks]
    have hnewline : ∀ c ∈ ['\n'], isBlank c = true := by simp [isBlank]
    have htrim := trimL_spelled h hnil hnewline
    rwa [List.nil_append] at htrim

end Answer

/-! ## Backticks in written strings -/

namespace Json

/-- A way to write the characters of strings that keeps backticks, writes no other character with
them or as nothing, keeps the names in an answer and spells some string. -/
structure IsWriter (char : Char → List Char) : Prop where
  tick : char '\x60' = ['\x60']
  other : ∀ c, c ≠ '\x60' → char c ≠ [] ∧ '\x60' ∉ char c
  names : ∀ name ∈ ["suggestions", "code", "explanation"],
    name.toList.flatMap char = name.toList
  spells : ∀ s : List Char, ∃ s', SpellsText s' (s.flatMap char)

theorem tick_not_mem_unitEscape (n : Nat) : '\x60' ∉ unitEscape n := by
  have hdigit : ∀ k < 16, '\x60' ≠ hexDigit k := by decide
  have hlt (k : Nat) : k % 16 < 16 := Nat.mod_lt k (by decide)
  simp [unitEscape, hexDigits, hdigit, hlt]

theorem plainChar_other (c : Char) (hc : c ≠ '\x60') :
    plainChar c ≠ [] ∧ '\x60' ∉ plainChar c := by
  unfold plainChar
  split
  · exact ⟨by simp, by simp [hc.symm]⟩
  split
  · decide
  split
  · decide
  split
  · decide
  split
  · decide
  split
  · decide
  split
  · exact ⟨by simp [unitEscape], tick_not_mem_unitEscape _⟩
  · exact ⟨by simp, by simp [hc.symm]⟩

theorem asciiChar_other (c : Char) (hc : c ≠ '\x60') :
    asciiChar c ≠ [] ∧ '\x60' ∉ asciiChar c := by
  rw [asciiChar]
  split
  · exact plainChar_other c hc
  split
  · exact ⟨by simp [unitEscape], tick_not_mem_unitEscape _⟩
  · refine ⟨by simp [unitEscape], ?_⟩
    intro hmem
    rcases List.mem_append.1 hmem with hmem | hmem
    · exact tick_not_mem_unitEscape _ hmem
    · exact tick_not_mem_unitEscape _ hmem

theorem isWriter_plainChar : IsWriter plainChar where
  tick := by decide
  other := plainChar_other
  names := by decide
  spells s := ⟨s, spellsText_plain s⟩

theorem isWriter_asciiChar : IsWriter asciiChar where
  tick := by decide
  other := asciiChar_other
  names := by decide
  spells := exists_spellsText_ascii

variable {char : Char → List Char}

theorem IsWriter.replicate_prefix_iff (h : IsWriter char) (n : Nat) (s : List Char) :
    List.replicate n '\x60' <+: s.flatMap char ↔ List.replicate n '\x60' <+: s := by
  induction n generalizing s with
  | zero => simp
  | succ n ih =>
    rw [List.replicate_succ]
    cases s with
    | nil => simp
    | cons c s =>
      rw [List.flatMap_cons]
      by_cases hc : c = '\x60'
      · rw [hc, h.tick, List.singleton_append, List.cons_prefix_cons, List.cons_prefix_cons, ih]
      · obtain ⟨hne, hfree⟩ := h.other c hc
        cases hwritten : char c with
        | nil => exact absurd hwritten hne
        | cons d ds =>
          have hd : '\x60' ≠ d := by
            rintro rfl
            exact hfree (hwritten ▸ List.mem_cons_self)
          simp [List.cons_prefix_cons, hd, Ne.symm hc]

end Json

theorem Fence.ticks_infix_append {u : List Char} (r : List Char) (hu : '\x60' ∉ u) :
    Fence.ticks <:+: u ++ r ↔ Fence.ticks <:+: r := by
  induction u with
  | nil => rfl
  | cons c u ih =>
    have hc : c ∉ Fence.ticks := by
      intro hmem
      have htick : c = '\x60' := by simpa [Fence.ticks] using hmem
      exact hu (by simp [htick])
    have hrest : '\x60' ∉ u := by
      intro hmem
      exact hu (List.mem_cons_of_mem c hmem)
    have hsplit := isInfix_append_cons (s := []) (u ++ r) hc
    rw [List.nil_append] at hsplit
    rw [List.cons_append, hsplit, ih hrest]
    simp [Fence.ticks]

/-- Three backticks stand in a written string where they stand in the string. -/
theorem Json.IsWriter.ticks_infix_iff {char : Char → List Char} (h : Json.IsWriter char)
    (s : List Char) : Fence.ticks <:+: s.flatMap char ↔ Fence.ticks <:+: s := by
  induction s with
  | nil => rfl
  | cons c s ih =>
    rw [List.flatMap_cons]
    by_cases hc : c = '\x60'
    · have hprefix := h.replicate_prefix_iff 3 ('\x60' :: s)
      rw [List.flatMap_cons, h.tick, List.singleton_append] at hprefix
      rw [hc, h.tick, List.singleton_append, List.infix_cons_iff, List.infix_cons_iff, ih]
      exact or_congr_left hprefix
    · obtain ⟨-, hfree⟩ := h.other c hc
      have hhead : '\x60' ∉ [c] := by simpa using Ne.symm hc
      rw [Fence.ticks_infix_append _ hfree, ih]
      exact (Fence.ticks_infix_append s hhead).symm

/-! ## Written answers -/

namespace Answer

/-- The entry of a suggestion. -/
def Entry.ofSuggestion (x : Suggestion) : Entry where
  members := [("code", some x.code), ("explanation", some x.explanation)]
  names_nodup := by simp

theorem value_ofSuggestion (x : Suggestion) :
    (Entry.ofSuggestion x).value =
      .obj [("code", .str x.code), ("explanation", .str x.explanation)] :=
  rfl

/-- The text of an answer with some suggestions, without any space between tokens. -/
def written (char : Char → List Char) (suggestions : List Suggestion) : List Char :=
  Json.writtenL char (envelope (suggestions.map Entry.ofSuggestion))

/-- Does a suggestion hold no three backticks? -/
def IsTickFree (x : Suggestion) : Prop :=
  ¬ Fence.ticks <:+: x.code.toList ∧ ¬ Fence.ticks <:+: x.explanation.toList

section Written

variable {char : Char → List Char} (h : Json.IsWriter char)

include h

theorem writtenString_name (name : String)
    (hname : name ∈ ["suggestions", "code", "explanation"]) :
    Json.writtenString char name.toList = Json.quoted name.toList := by
  rw [Json.writtenString, h.names name hname]
  rfl

/-- The text of an entry. -/
theorem written_entry (x : Suggestion) :
    Json.writtenL char (Entry.ofSuggestion x).value =
      '\x7b' :: (Json.quoted "code".toList ++ ':' :: '\x22' ::
        (x.code.toList.flatMap char ++ '\x22' :: ',' ::
          (Json.quoted "explanation".toList ++ ':' :: '\x22' ::
            (x.explanation.toList.flatMap char ++ ['\x22', '\x7d'])))) := by
  have hcode := writtenString_name h "code" (by simp)
  have hexplanation := writtenString_name h "explanation" (by simp)
  rw [value_ofSuggestion]
  simp only [Json.writtenL, Json.writtenMembers, hcode, hexplanation]
  simp [Json.writtenString]

theorem spells_written_entry (x : Suggestion) (d : Nat) :
    ∃ y, Json.Spells (d + 1) (.value (Entry.ofSuggestion y).value)
      (Json.writtenL char (Entry.ofSuggestion x).value) := by
  obtain ⟨code, hcode⟩ := h.spells x.code.toList
  obtain ⟨explanation, hexplanation⟩ := h.spells x.explanation.toList
  refine ⟨{ code := String.ofList code, explanation := String.ofList explanation }, ?_⟩
  have hlast := (hexplanation.quoted d).lastNamed "explanation" (by decide)
  have hmembers := (hcode.quoted d).named "code" (by decide) hlast
  have hobject := Json.Spells.object (by simp) Json.isSpacing_nil hmembers
  rw [written_entry h, value_ofSuggestion]
  simpa [Json.quoted] using hobject

/-- The text of an answer is that of its entries in brackets and in braces. -/
theorem written_eq (xs : List Suggestion) :
    written char xs = '\x7b' :: (Json.quoted "suggestions".toList ++ ':' :: '[' ::
      (Json.writtenElements char ((xs.map Entry.ofSuggestion).map Entry.value) ++
        [']', '\x7d'])) := by
  have hname := writtenString_name h "suggestions" (by simp)
  rw [written, envelope]
  simp only [Json.writtenL, Json.writtenMembers, hname]
  simp

/-- The written elements of a list with at least one suggestion spell such a list. -/
theorem spells_written_elements (x : Suggestion) (xs : List Suggestion) (d : Nat) :
    ∃ y ys, Json.Spells (d + 1)
      (.elements (((y :: ys).map Entry.ofSuggestion).map Entry.value))
      (Json.writtenElements char (((x :: xs).map Entry.ofSuggestion).map Entry.value) ++
        [']']) := by
  induction xs generalizing x with
  | nil =>
    obtain ⟨y, hy⟩ := spells_written_entry h x d
    refine ⟨y, [], ?_⟩
    have hlast := Json.Spells.lastElement hy Json.isSpacing_nil
    simpa [Json.writtenElements] using hlast
  | cons x' xs ih =>
    obtain ⟨y, hy⟩ := spells_written_entry h x d
    obtain ⟨z, zs, hrest⟩ := ih x'
    refine ⟨y, z :: zs, ?_⟩
    have helement := Json.Spells.element hy Json.isSpacing_nil Json.isSpacing_nil hrest
    simpa [Json.writtenElements] using helement

/-- What is written spells an answer. -/
theorem spells_written (xs : List Suggestion) :
    ∃ entries, Json.Spells Json.nestingLimit (.value (envelope entries)) (written char xs) := by
  have harray : ∃ ys : List Suggestion, Json.Spells 999
      (.value (.arr ((ys.map Entry.ofSuggestion).map Entry.value)))
      ('[' :: (Json.writtenElements char ((xs.map Entry.ofSuggestion).map Entry.value) ++
        [']'])) := by
    cases xs with
    | nil => exact ⟨[], .noElements Json.isSpacing_nil⟩
    | cons x xs =>
      obtain ⟨y, ys, helements⟩ := spells_written_elements h x xs 997
      have hvalue := Json.Spells.array Json.isSpacing_nil helements
      exact ⟨y :: ys, hvalue⟩
  obtain ⟨ys, harray⟩ := harray
  have hlast := harray.lastNamed "suggestions" (by decide)
  have hobject : Json.Spells Json.nestingLimit _ _ :=
    Json.Spells.object (by simp) Json.isSpacing_nil hlast
  refine ⟨ys.map Entry.ofSuggestion, ?_⟩
  rw [written_eq h, envelope]
  simpa [Json.quoted] using hobject

theorem ticks_infix_entry (x : Suggestion) :
    Fence.ticks <:+: Json.writtenL char (Entry.ofSuggestion x).value ↔ ¬ IsTickFree x := by
  have hquote : '\x22' ∉ Fence.ticks := by decide
  have hfront : '\x60' ∉ '\x7b' :: (Json.quoted "code".toList ++ [':', '\x22']) := by decide
  have hmiddle : '\x60' ∉ ',' :: (Json.quoted "explanation".toList ++ [':', '\x22']) := by decide
  have hend : ¬ Fence.ticks <:+: ['\x7d'] := by decide
  have htext : Json.writtenL char (Entry.ofSuggestion x).value =
      ('\x7b' :: (Json.quoted "code".toList ++ [':', '\x22'])) ++
        (x.code.toList.flatMap char ++ '\x22' ::
          ((',' :: (Json.quoted "explanation".toList ++ [':', '\x22'])) ++
            (x.explanation.toList.flatMap char ++ '\x22' :: ['\x7d']))) := by
    rw [written_entry h]
    simp [Json.quoted]
  rw [htext, Fence.ticks_infix_append _ hfront, isInfix_append_cons _ hquote,
    Fence.ticks_infix_append _ hmiddle, isInfix_append_cons _ hquote, h.ticks_infix_iff,
    h.ticks_infix_iff, or_iff_left hend, IsTickFree, not_and_or, not_not, not_not]

theorem ticks_infix_elements (xs : List Suggestion) :
    Fence.ticks <:+: Json.writtenElements char ((xs.map Entry.ofSuggestion).map Entry.value) ↔
      ∃ x ∈ xs, ¬ IsTickFree x := by
  induction xs with
  | nil => simp [Json.writtenElements, Fence.ticks]
  | cons x xs ih =>
    cases xs with
    | nil => simp [Json.writtenElements, ticks_infix_entry h]
    | cons x' xs =>
      have hcomma : ',' ∉ Fence.ticks := by decide
      have htext : Json.writtenElements char
          (((x :: x' :: xs).map Entry.ofSuggestion).map Entry.value) =
          Json.writtenL char (Entry.ofSuggestion x).value ++ ',' ::
            Json.writtenElements char (((x' :: xs).map Entry.ofSuggestion).map Entry.value) := rfl
      rw [htext, isInfix_append_cons _ hcomma, ih, ticks_infix_entry h]
      simp only [List.mem_cons, exists_eq_or_imp]

/-- Three backticks stand in a written answer where they stand in a code or an explanation. -/
theorem ticks_infix_written (xs : List Suggestion) :
    Fence.ticks <:+: written char xs ↔ ∃ x ∈ xs, ¬ IsTickFree x := by
  have hbracket : ']' ∉ Fence.ticks := by decide
  have hfront : '\x60' ∉ '\x7b' :: (Json.quoted "suggestions".toList ++ [':', '[']) := by decide
  have hend : ¬ Fence.ticks <:+: ['\x7d'] := by decide
  have htext : written char xs =
      ('\x7b' :: (Json.quoted "suggestions".toList ++ [':', '['])) ++
        (Json.writtenElements char ((xs.map Entry.ofSuggestion).map Entry.value) ++
          ']' :: ['\x7d']) := by
    rw [written_eq h]
    simp [Json.quoted]
  rw [htext, Fence.ticks_infix_append _ hfront, isInfix_append_cons _ hbracket,
    ticks_infix_elements h, or_iff_left hend]

end Written

theorem isWriter_of {char : Char → List Char}
    (h : char = Json.asciiChar ∨ char = Json.plainChar) : Json.IsWriter char := by
  rcases h with rfl | rfl
  · exact Json.isWriter_asciiChar
  · exact Json.isWriter_plainChar

/-- A written answer in a block, with or without a word after its opening, is read as the answer
without a block exactly if no code and no explanation in it holds three backticks. -/
theorem read_block_iff {char : Char → List Char}
    (hchar : char = Json.asciiChar ∨ char = Json.plainChar) (xs : List Suggestion)
    {before : List Char} (hbefore : '\x60' ∉ before) (after : List Char) :
    (read (String.ofList (before ++ Fence.block Fence.language (written char xs) ++ after)) =
        read (String.ofList (written char xs)) ↔ ∀ x ∈ xs, IsTickFree x) ∧
      (read (String.ofList (Fence.block [] (written char xs))) =
        read (String.ofList (written char xs)) ↔ ∀ x ∈ xs, IsTickFree x) := by
  have hwriter := isWriter_of hchar
  obtain ⟨entries, hspells⟩ := spells_written hwriter xs
  have hfree : ¬ Fence.ticks <:+: written char xs ↔ ∀ x ∈ xs, IsTickFree x := by
    rw [ticks_infix_written hwriter]
    simp
  have hnil : '\x60' ∉ ([] : List Char) := List.not_mem_nil
  have hlanguage : Fence.afterOpening? (Fence.block Fence.language (written char xs) ++ after) =
      some (written char xs ++ '\n' :: (Fence.ticks ++ after)) := by
    have hopening := Fence.afterOpening?_language
      (written char xs ++ '\n' :: (Fence.ticks ++ after))
    rw [← hopening]
    simp [Fence.block]
  have hplain : Fence.afterOpening? (Fence.block [] (written char xs)) =
      some (written char xs ++ '\n' :: (Fence.ticks ++ [])) := by
    rw [List.append_nil]
    exact Fence.afterOpening?_ticks _
  constructor
  · rw [List.append_assoc, read_opened_iff hspells hbefore hlanguage]
    exact hfree
  · rw [← List.nil_append (Fence.block [] (written char xs)),
      read_opened_iff hspells hnil hplain]
    exact hfree

instance (x : Suggestion) : Decidable (IsTickFree x) :=
  inferInstanceAs (Decidable (_ ∧ _))

/-- Two backticks in a code are kept. -/
theorem read_sampleBlock :
    (Json.plainChar = Json.asciiChar ∨ Json.plainChar = Json.plainChar) ∧
      '\x60' ∉ "Here you go:\n".toList ∧
      read (String.ofList ("Here you go:\n".toList ++ Fence.block Fence.language
          (written Json.plainChar [{ code := "\x60\x60", explanation := "é" }]) ++ "Bye".toList)) =
        read (String.ofList
          (written Json.plainChar [{ code := "\x60\x60", explanation := "é" }])) := by
  have hchar : Json.plainChar = Json.asciiChar ∨ Json.plainChar = Json.plainChar := .inr rfl
  have hbefore : '\x60' ∉ "Here you go:\n".toList := by decide
  have hfree : ∀ x ∈ [({ code := "\x60\x60", explanation := "é" } : Suggestion)], IsTickFree x := by
    decide
  exact ⟨hchar, hbefore, (read_block_iff hchar _ hbefore "Bye".toList).1.2 hfree⟩

/-- A suggestion whose code is three backticks. -/
def ticksSuggestion : Suggestion where
  code := "\x60\x60\x60"
  explanation := "e"

/-- An answer that is read without a block and cut off in one. -/
theorem read_ticksBlock :
    read (String.ofList (written Json.asciiChar [ticksSuggestion])) =
        .ok (.suggestions [ticksSuggestion]) ∧
      read (String.ofList (Fence.block Fence.language
          (written Json.asciiChar [ticksSuggestion]))) =
        .ok (.unparseable
          (.malformed { what := .unterminated, line := 1, column := 25, position := 24 })
          (String.ofList (Fence.block Fence.language
            (written Json.asciiChar [ticksSuggestion])))) := by
  decide +kernel

end Answer

end InlineReview
