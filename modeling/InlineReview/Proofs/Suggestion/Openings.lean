import InlineReview.Proofs.Suggestion.Fences

/-!
# The first block of a text

An opening is three backticks with a tag behind them and a newline: perhaps the word, then spaces
and tabs, then perhaps a carriage return.  The fragment of a text is what stands between its first
opening and the first three backticks after that, and the text as it is if either is missing.  It
does not matter here which backticks were meant to open a block.

* `Fence.afterOpening?_eq_some_iff` — what stands at the front of a text that opens.
* `Fence.OpensAt.suffix_of_le` — what follows a later opening follows an earlier one too.
* `Fence.fragment_shows` — the fragment of a text, whatever the text.
-/

namespace InlineReview.Fence

open Text

/-! ## Openings -/

/-- Is this what may stand between the backticks of an opening and its newline?  It is the word or
nothing, then spaces and tabs, then a carriage return or nothing. -/
def IsTag (tag : List Char) : Prop :=
  ∃ word gap ending, tag = word ++ (gap ++ ending) ∧ (word = [] ∨ word = language) ∧
    (∀ c ∈ gap, c = ' ' ∨ c = '\t') ∧ (ending = [] ∨ ending = ['\r'])

/-- Does a text open after some front of it, with a rest behind the opening? -/
def OpensAt (s front rest : List Char) : Prop :=
  ∃ tag, IsTag tag ∧ s = front ++ (ticks ++ (tag ++ '\n' :: rest))

theorem afterLineEnd?_eq_some_iff {s r : List Char} :
    afterLineEnd? s = some r ↔
      ∃ ending, (ending = [] ∨ ending = ['\r']) ∧ s = ending ++ '\n' :: r := by
  constructor
  · intro h
    unfold afterLineEnd? at h
    split at h
    · obtain rfl := Option.some.inj h
      exact ⟨[], .inl rfl, rfl⟩
    · obtain rfl := Option.some.inj h
      exact ⟨['\r'], .inr rfl, rfl⟩
    · cases h
  · rintro ⟨ending, rfl | rfl, rfl⟩
    · rfl
    · rfl

/-- Spaces and tabs are passed over up to the end of the line. -/
theorem dropWhile_gap {gap ending : List Char} (r : List Char)
    (hgap : ∀ c ∈ gap, c = ' ' ∨ c = '\t') (hending : ending = [] ∨ ending = ['\r']) :
    (gap ++ (ending ++ '\n' :: r)).dropWhile (fun c => c = ' ' || c = '\t') =
      ending ++ '\n' :: r := by
  have hpass : ∀ c ∈ gap, (c = ' ' || c = '\t' : Bool) = true := by simpa using hgap
  rw [List.dropWhile_append_of_pos hpass]
  rcases hending with rfl | rfl
  · exact List.dropWhile_cons_of_neg (by decide)
  · exact List.dropWhile_cons_of_neg (by decide)

/-- Where the word is left out, no word is found. -/
theorem dropLead?_language_eq_none {gap ending : List Char} (r : List Char)
    (hgap : ∀ c ∈ gap, c = ' ' ∨ c = '\t') (hending : ending = [] ∨ ending = ['\r']) :
    dropLead? language (gap ++ (ending ++ '\n' :: r)) = none := by
  have hletter : ∀ (c : Char) (t : List Char), c ≠ 'j' → dropLead? language (c :: t) = none := by
    intro c t hc
    exact if_neg hc.symm
  cases gap with
  | nil =>
    rcases hending with rfl | rfl
    · exact hletter _ _ (by decide)
    · exact hletter _ _ (by decide)
  | cons c gap =>
    rcases hgap c List.mem_cons_self with rfl | rfl
    · exact hletter _ _ (by decide)
    · exact hletter _ _ (by decide)

/-- What stands at the front of a text that opens. -/
theorem afterOpening?_eq_some_iff {s r : List Char} :
    afterOpening? s = some r ↔ OpensAt s [] r := by
  constructor
  · intro h
    obtain ⟨opened, hticks, hline⟩ := Option.bind_eq_some_iff.1 h
    obtain ⟨ending, hending, hend⟩ := afterLineEnd?_eq_some_iff.1 hline
    let isGap : Char → Bool := fun c => c = ' ' || c = '\t'
    have hgap (t : List Char) : ∀ c ∈ t.takeWhile isGap, c = ' ' ∨ c = '\t' := by
      intro c hc
      simpa [isGap] using List.mem_takeWhile_imp hc
    obtain ⟨word, hword, hopened⟩ : ∃ word, (word = [] ∨ word = language) ∧
        opened = word ++ (dropLead? language opened).getD opened := by
      cases hlead : dropLead? language opened with
      | none => exact ⟨[], .inl rfl, rfl⟩
      | some t => exact ⟨language, .inr rfl, eq_append_of_dropLead? hlead⟩
    have hrest : (dropLead? language opened).getD opened =
        ((dropLead? language opened).getD opened).takeWhile isGap ++ (ending ++ '\n' :: r) := by
      rw [← hend]
      exact List.takeWhile_append_dropWhile.symm
    refine ⟨word ++ (((dropLead? language opened).getD opened).takeWhile isGap ++ ending),
      ⟨word, _, ending, rfl, hword, hgap _, hending⟩, ?_⟩
    rw [eq_append_of_dropLead? hticks, List.nil_append, List.append_assoc, List.append_assoc,
      ← hrest, ← hopened]
  · rintro ⟨tag, ⟨word, gap, ending, rfl, hword, hgap, hending⟩, rfl⟩
    have hstart : (dropLead? language (word ++ (gap ++ (ending ++ '\n' :: r)))).getD
        (word ++ (gap ++ (ending ++ '\n' :: r))) = gap ++ (ending ++ '\n' :: r) := by
      rcases hword with rfl | rfl
      · rw [List.nil_append, dropLead?_language_eq_none r hgap hending, Option.getD_none]
      · rw [dropLead?_append, Option.getD_some]
    rw [List.nil_append, afterOpening?, dropLead?_append, Option.bind_eq_bind, Option.bind_some]
    simp only [List.append_assoc]
    rw [hstart, dropWhile_gap r hgap hending]
    exact afterLineEnd?_eq_some_iff.2 ⟨ending, hending, rfl⟩

namespace OpensAt

variable {s front rest f r : List Char}

theorem cons (h : OpensAt s front rest) (c : Char) : OpensAt (c :: s) (c :: front) rest := by
  obtain ⟨tag, htag, rfl⟩ := h
  exact ⟨tag, htag, rfl⟩

/-- A text that opens behind its first character opens without it too. -/
theorem tail {c d : Char} (h : OpensAt (c :: s) (d :: front) rest) : OpensAt s front rest := by
  obtain ⟨tag, htag, heq⟩ := h
  exact ⟨tag, htag, (List.cons.inj heq).2⟩

end OpensAt

theorem newline_not_mem_tag {tag : List Char} (h : IsTag tag) : '\n' ∉ tag := by
  obtain ⟨word, gap, ending, rfl, hword, hgap, hending⟩ := h
  have hwords : '\n' ∉ word := by rcases hword with rfl | rfl <;> decide
  have hgaps : '\n' ∉ gap := by
    intro hmem
    rcases hgap _ hmem with h | h
    · cases h
    · cases h
  have hendings : '\n' ∉ ending := by rcases hending with rfl | rfl <;> decide
  simp [hwords, hgaps, hendings]

/-- An opening ends at the first newline after its backticks, so that one that starts later does
not end earlier. -/
theorem OpensAt.suffix_of_le {s front rest f r : List Char} (h : OpensAt s front rest)
    (h' : OpensAt s f r) (hle : front.length ≤ f.length) : r <:+ rest := by
  obtain ⟨tag, htag, rfl⟩ := h
  obtain ⟨tag', -, heq⟩ := h'
  obtain ⟨gap, rfl⟩ : front <+: f :=
    List.prefix_of_prefix_length_le ⟨_, rfl⟩ ⟨_, heq.symm⟩ hle
  rw [List.append_assoc] at heq
  have hsame : ticks ++ (tag ++ '\n' :: rest) = gap ++ (ticks ++ (tag' ++ '\n' :: r)) :=
    List.append_cancel_left heq
  have hfirst : ticks ++ tag ++ '\n' :: rest = gap ++ (ticks ++ tag') ++ '\n' :: r := by
    simpa using hsame
  have hnewline : '\n' ∉ ticks ++ tag := by
    intro hmem
    rcases List.mem_append.1 hmem with hmem | hmem
    · exact absurd hmem (by decide)
    · exact newline_not_mem_tag htag hmem
  rcases List.append_eq_append_iff.1 hfirst with ⟨x, hx, hrest⟩ | ⟨x, hx, hrest⟩
  · cases x with
    | nil =>
      obtain ⟨-, rfl⟩ := List.cons.inj hrest
      exact List.suffix_rfl
    | cons c x =>
      obtain ⟨-, rfl⟩ := List.cons.inj hrest
      exact ⟨x ++ ['\n'], by simp⟩
  · cases x with
    | nil =>
      obtain ⟨-, rfl⟩ := List.cons.inj hrest
      exact List.suffix_rfl
    | cons c x =>
      obtain ⟨rfl, -⟩ := List.cons.inj hrest
      exact absurd (by rw [hx]; simp) hnewline

/-! ## The first opening -/

/-- Is this where a text opens first? -/
def OpensFirst (s front rest : List Char) : Prop :=
  OpensAt s front rest ∧ ∀ f r, OpensAt s f r → front.length ≤ f.length

/-- Are these the parts of a text before and after its first three backticks? -/
def ClosesFirst (rest body after : List Char) : Prop :=
  rest = body ++ ticks ++ after ∧ ∀ b r, rest = b ++ ticks ++ r → body.length ≤ b.length

theorem exists_opensFirst {s f r : List Char} (h : OpensAt s f r) :
    ∃ front rest, OpensFirst s front rest := by
  induction hn : f.length using Nat.strong_induction_on generalizing f r with
  | _ n ih =>
    by_cases hfirst : ∀ f' r', OpensAt s f' r' → f.length ≤ f'.length
    · exact ⟨f, r, h, hfirst⟩
    · simp only [Classical.not_forall, Nat.not_le] at hfirst
      obtain ⟨f', r', h', hlt⟩ := hfirst
      exact ih f'.length (hn ▸ hlt) h' rfl

/-- A body holds no three backticks. -/
theorem ClosesFirst.not_ticks {rest body after : List Char} (h : ClosesFirst rest body after) :
    ¬ ticks <:+: body := by
  rintro ⟨p, q, rfl⟩
  obtain ⟨hparts, hfirst⟩ := h
  have hlonger := hfirst p (q ++ (ticks ++ after)) (by rw [hparts]; simp)
  have hticks : ticks.length = 3 := rfl
  simp only [List.length_append] at hlonger
  omega

theorem exists_closesFirst {rest : List Char} (h : ticks <:+: rest) :
    ∃ body after, ClosesFirst rest body after := by
  obtain ⟨p, q, rfl⟩ := h
  obtain ⟨body, after, hbreak⟩ := exists_breakOn? ticks p q
  rw [← List.append_assoc] at hbreak
  exact ⟨body, after, breakOn?_eq_some_iff.1 hbreak⟩

/-! ## The body of the first block -/

/-- Where a text does not open at its front, its body is that of the rest of it. -/
theorem body?_cons {c : Char} {s : List Char} (h : ∀ r, ¬ OpensAt (c :: s) [] r) :
    body? (c :: s) = body? s := by
  have hopening : afterOpening? (c :: s) = none := by
    rw [Option.eq_none_iff_forall_ne_some]
    intro r hr
    exact h r (afterOpening?_eq_some_iff.1 hr)
  have hhere : bodyHere? (c :: s) = none := by
    rw [bodyHere?, hopening]
    rfl
  rw [body?, hhere]

/-- The body of a text stands between its first opening and the next three backticks. -/
theorem body?_of_opensFirst {s front rest body after : List Char} (h : OpensFirst s front rest)
    (hclose : ClosesFirst rest body after) : body? s = some body := by
  induction front generalizing s with
  | nil => exact body?_opening (afterOpening?_eq_some_iff.2 h.1) (breakOn?_eq_some_iff.2 hclose)
  | cons c front ih =>
    obtain ⟨hopen, hfirst⟩ := h
    cases s with
    | nil =>
      obtain ⟨tag, -, heq⟩ := hopen
      cases heq
    | cons d s =>
      have hlater : ∀ r, ¬ OpensAt (d :: s) [] r := by
        intro r hr
        exact absurd (hfirst [] r hr) (by simp)
      rw [body?_cons hlater]
      apply ih
      refine ⟨hopen.tail, ?_⟩
      intro f r hf
      exact Nat.le_of_succ_le_succ (hfirst (d :: f) r (hf.cons d))

/-- A text has no body if no opening in it is followed by three backticks. -/
theorem body?_eq_none {s : List Char} (h : ∀ f r, OpensAt s f r → ¬ ticks <:+: r) :
    body? s = none := by
  induction s with
  | nil => rfl
  | cons c s ih =>
    have hhere : bodyHere? (c :: s) = none := by
      rw [Option.eq_none_iff_forall_ne_some]
      intro body hbody
      obtain ⟨rest, hopening, hbreak⟩ := Option.bind_eq_some_iff.1 hbody
      obtain ⟨⟨b, after⟩, hclose, -⟩ := Option.bind_eq_some_iff.1 hbreak
      apply h [] rest (afterOpening?_eq_some_iff.1 hopening)
      exact ⟨b, after, (breakOn?_eq_some_iff.1 hclose).1.symm⟩
    rw [body?, hhere]
    apply ih
    intro f r hf
    exact h (c :: f) r (hf.cons c)

/-- Where nothing closes the first opening, nothing closes a later one. -/
theorem OpensFirst.not_ticks {s front rest f r : List Char} (h : OpensFirst s front rest)
    (hrest : ¬ ticks <:+: rest) (h' : OpensAt s f r) : ¬ ticks <:+: r := by
  intro hr
  have hsuffix : r <:+ rest := h.1.suffix_of_le h' (h.2 f r h')
  exact hrest (hr.trans hsuffix.isInfix)

/-! ## Fragments -/

/-- What is the fragment of a text? -/
inductive Shows (s : List Char) : List Char → Prop
  /-- What stands between the first opening and the first three backticks after it. -/
  | block {front rest body after : List Char} (hopen : OpensFirst s front rest)
      (hclose : ClosesFirst rest body after) : Shows s body
  /-- The text, if it does not open anywhere. -/
  | unopened (h : ∀ front rest, ¬ OpensAt s front rest) : Shows s s
  /-- The text, if no three backticks follow its first opening. -/
  | unclosed {front rest : List Char} (hopen : OpensFirst s front rest)
      (h : ¬ ticks <:+: rest) : Shows s s

theorem Shows.fragmentL_eq {s t : List Char} (h : Shows s t) : fragmentL s = t := by
  cases h with
  | block hopen hclose => rw [fragmentL, body?_of_opensFirst hopen hclose, Option.getD_some]
  | unopened h =>
    have hnone : body? s = none := body?_eq_none fun f r hf => absurd hf (h f r)
    rw [fragmentL, hnone, Option.getD_none]
  | unclosed hopen h =>
    have hnone : body? s = none := body?_eq_none fun f r hf => hopen.not_ticks h hf
    rw [fragmentL, hnone, Option.getD_none]

theorem shows_fragmentL (s : List Char) : Shows s (fragmentL s) := by
  have hshows : ∃ t, Shows s t := by
    by_cases hopens : ∃ f r, OpensAt s f r
    · obtain ⟨f, r, hf⟩ := hopens
      obtain ⟨front, rest, hfirst⟩ := exists_opensFirst hf
      by_cases hticks : ticks <:+: rest
      · obtain ⟨body, after, hclose⟩ := exists_closesFirst hticks
        exact ⟨body, .block hfirst hclose⟩
      · exact ⟨s, .unclosed hfirst hticks⟩
    · refine ⟨s, .unopened ?_⟩
      intro f r hf
      exact hopens ⟨f, r, hf⟩
  obtain ⟨t, ht⟩ := hshows
  rwa [ht.fragmentL_eq]

/-- The fragment of a text is what stands between its first opening and the first three backticks
after it, and the text as it is if either is missing.  A fragment from a block holds no three
backticks.  If nothing closes the first opening, nothing closes a later one. -/
theorem fragment_shows (s : String) :
    (∀ t : String, fragment s = t ↔ Shows s.toList t.toList) ∧
      (∀ front rest body after, OpensFirst s.toList front rest → ClosesFirst rest body after →
        (fragment s).toList = body ∧ ¬ ticks <:+: body) ∧
      ∀ front rest, OpensFirst s.toList front rest → ¬ ticks <:+: rest →
        fragment s = s ∧ ∀ f r, OpensAt s.toList f r → ¬ ticks <:+: r := by
  have htext : (fragment s).toList = fragmentL s.toList := String.toList_ofList
  have heq (t : String) (h : Shows s.toList t.toList) : fragment s = t := by
    rw [fragment, h.fragmentL_eq, String.ofList_toList]
  refine ⟨?_, ?_, ?_⟩
  · intro t
    constructor
    · rintro rfl
      rw [htext]
      exact shows_fragmentL s.toList
    · exact heq t
  · intro front rest body after hopen hclose
    refine ⟨?_, hclose.not_ticks⟩
    rw [htext, (Shows.block hopen hclose).fragmentL_eq]
  · intro front rest hopen hrest
    refine ⟨heq s (.unclosed hopen hrest), ?_⟩
    intro f r hf
    exact hopen.not_ticks hrest hf

end InlineReview.Fence
