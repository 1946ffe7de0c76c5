import InlineReview.Proofs.Suggestion.Openings

/-!
# Blocks in several languages

A message is prose with blocks between, each with the tag of its language.  The block that is wanted
is the first one without a language or in JSON.  The backticks that close a block stand at the end
of a line, so that they look like an opening without a language: where the first block is in another
language, the prose up to the second block is taken for the answer, whatever the blocks are.

* `Fence.body?_tag` — an opening in another language is passed over.
* `Fence.Message.body?_text` — the body that is found in a message.
* `Fence.Message.fragment_wanted_iff` — when that is the block that is wanted.
* `Fence.Message.fragment_scriptFirst` — a message whose answer is passed over.
-/

namespace InlineReview.Fence

open Text

/-- A block, with the prose up to the next one.  Behind the backticks that open it stands the tag of
its language, up to the end of the line; there are no backticks but those around its body. -/
structure Fenced where
  tag : List Char
  body : List Char
  prose : List Char
  tick_not_mem_tag : '\x60' ∉ tag
  newline_not_mem_tag : '\n' ∉ tag
  tick_not_mem_body : '\x60' ∉ body
  tick_not_mem_prose : '\x60' ∉ prose

/-- A message: prose, and then blocks with prose after each of them. -/
structure Message where
  lead : List Char
  blocks : List Fenced
  tick_not_mem_lead : '\x60' ∉ lead

/-- The text of a block, the end of its last line and the prose after it. -/
def Fenced.text (b : Fenced) : List Char :=
  ticks ++ (b.tag ++ '\n' :: (b.body ++ (ticks ++ '\n' :: b.prose)))

namespace Message

/-- The text of a message. -/
def text (m : Message) : List Char := m.lead ++ m.blocks.flatMap Fenced.text

end Message

/-! ## Tags -/

theorem opensAt_tag {tag : List Char} (htag : IsTag tag) (r : List Char) :
    OpensAt (ticks ++ (tag ++ '\n' :: r)) [] r :=
  ⟨tag, htag, rfl⟩

/-- Backticks in front of the tag of another language open nothing. -/
theorem not_opensAt_tag {tag : List Char} (htag : ¬ IsTag tag) (hline : '\n' ∉ tag)
    (r rest : List Char) : ¬ OpensAt (ticks ++ (tag ++ '\n' :: r)) [] rest := by
  rintro ⟨tag', htag', heq⟩
  have hsame : tag ++ '\n' :: r = tag' ++ '\n' :: rest := List.append_cancel_left heq
  exact htag ((eq_of_append_cons hline (newline_not_mem_tag htag') hsame).1 ▸ htag')

instance : DecidablePred IsTag := fun tag =>
  decidable_of_iff (afterOpening? (ticks ++ (tag ++ ['\n'])) = some []) <| by
    rw [afterOpening?_eq_some_iff]
    constructor
    · rintro ⟨tag', htag', heq⟩
      have hsame : tag ++ ['\n'] = tag' ++ ['\n'] := List.append_cancel_left heq
      rwa [List.append_cancel_right hsame]
    · intro htag
      exact opensAt_tag htag []

/-- Fewer than three backticks open nothing. -/
theorem not_opensAt_short {n : Nat} (hn : n < 3) {c : Char} (hc : c ≠ '\x60')
    (s rest : List Char) : ¬ OpensAt (List.replicate n '\x60' ++ c :: s) [] rest := by
  rintro ⟨tag, -, heq⟩
  have hchar := congrArg (fun t => t[n]?) heq
  have hleft : (List.replicate n '\x60' ++ c :: s)[n]? = some c := by simp
  have hright : (ticks ++ (tag ++ '\n' :: rest))[n]? = some '\x60' := by
    have hticks : ticks = List.replicate 3 '\x60' := rfl
    rw [hticks, List.getElem?_append_left (by simpa using hn), List.getElem?_replicate, if_pos hn]
  exact hc (Option.some.inj (hleft.symm.trans (hchar.trans hright)))

/-- An opening in another language is passed over. -/
theorem body?_tag {tag : List Char} (htag : ¬ IsTag tag) (hline : '\n' ∉ tag)
    (htick : '\x60' ∉ tag) (r : List Char) : body? (ticks ++ (tag ++ '\n' :: r)) = body? r := by
  have hfree : '\x60' ∉ tag ++ ['\n'] := by simp [htick]
  have hrest := body?_append r hfree
  rw [List.append_assoc, List.singleton_append] at hrest
  obtain ⟨c, s, hs, hc⟩ : ∃ c s, tag ++ '\n' :: r = c :: s ∧ c ≠ '\x60' := by
    cases tag with
    | nil => exact ⟨'\n', r, rfl, by decide⟩
    | cons c tag =>
      refine ⟨c, tag ++ '\n' :: r, rfl, ?_⟩
      rintro rfl
      exact htick List.mem_cons_self
  have hopening := not_opensAt_tag htag hline r
  rw [← hrest]
  rw [hs] at hopening ⊢
  calc body? (ticks ++ c :: s)
      = body? (List.replicate 2 '\x60' ++ c :: s) := body?_cons hopening
    _ = body? (List.replicate 1 '\x60' ++ c :: s) :=
        body?_cons (not_opensAt_short (n := 2) (by decide) hc s)
    _ = body? (c :: s) := body?_cons (not_opensAt_short (n := 1) (by decide) hc s)

/-! ## Bodies -/

theorem not_ticks_of_not_mem {s : List Char} (h : '\x60' ∉ s) : ¬ ticks <:+: s :=
  fun hticks => h (hticks.subset (by simp [ticks]))

/-- The body of a block ends at the backticks that close it. -/
theorem body?_block {tag body : List Char} (htag : IsTag tag) (hbody : '\x60' ∉ body)
    (r : List Char) : body? (ticks ++ (tag ++ '\n' :: (body ++ (ticks ++ r)))) = some body :=
  body?_opening (afterOpening?_eq_some_iff.2 (opensAt_tag htag _)) (breakOn?_append r hbody)

/-- An opening that no backticks follow has no body. -/
theorem body?_unclosed {tag r : List Char} (htag : IsTag tag) (hr : '\x60' ∉ r) :
    body? (ticks ++ (tag ++ '\n' :: r)) = none := by
  have hfirst : OpensFirst (ticks ++ (tag ++ '\n' :: r)) [] r :=
    ⟨opensAt_tag htag r, fun _ _ _ => Nat.zero_le _⟩
  exact body?_eq_none fun _ _ hopen => hfirst.not_ticks (not_ticks_of_not_mem hr) hopen

theorem isTag_nil : IsTag [] := ⟨[], [], [], rfl, .inl rfl, by simp, .inl rfl⟩

/-- Where the first block is in another language, the prose after it stands between backticks that
look like an opening and those of the second block. -/
theorem body?_passed {b : Fenced} (htag : ¬ IsTag b.tag) (rest : List Fenced) :
    body? (b.text ++ rest.flatMap Fenced.text) =
      if rest.isEmpty then none else some b.prose := by
  have htext : b.text ++ rest.flatMap Fenced.text =
      ticks ++ (b.tag ++ '\n' :: (b.body ++ (ticks ++ ([] ++ '\n' ::
        (b.prose ++ rest.flatMap Fenced.text))))) := by simp [Fenced.text]
  rw [htext, body?_tag htag b.newline_not_mem_tag b.tick_not_mem_tag,
    body?_append _ b.tick_not_mem_body]
  cases rest with
  | nil =>
    rw [List.flatMap_nil, List.append_nil, body?_unclosed isTag_nil b.tick_not_mem_prose]
    rfl
  | cons next rest =>
    have hnext : (next :: rest).flatMap Fenced.text =
        ticks ++ ((next.tag ++ '\n' :: (next.body ++ (ticks ++ '\n' :: next.prose))) ++
          rest.flatMap Fenced.text) := by simp [Fenced.text]
    rw [hnext, body?_block isTag_nil b.tick_not_mem_prose]
    rfl

/-! ## Messages -/

namespace Message

variable (m : Message)

/-- The block that is wanted: the first one without a language or in JSON. -/
def wanted? : Option Fenced := m.blocks.find? fun b => IsTag b.tag

/-- The answer that is wanted: the body of that block, or the whole text without one. -/
def wanted : List Char := (m.wanted?.map Fenced.body).getD m.text

/-- The body of a message is that of its first block; where that is in another language, it is the
prose between this and the second one. -/
theorem body?_text : body? m.text =
    match m.blocks with
    | [] => none
    | b :: rest =>
      if IsTag b.tag then some b.body else if rest.isEmpty then none else some b.prose := by
  rw [text, body?_append _ m.tick_not_mem_lead]
  cases m.blocks with
  | nil => rfl
  | cons b rest =>
    rw [List.flatMap_cons]
    by_cases htag : IsTag b.tag
    · have htext : b.text ++ rest.flatMap Fenced.text =
          ticks ++ (b.tag ++ '\n' :: (b.body ++ (ticks ++ '\n' :: (b.prose ++
            rest.flatMap Fenced.text)))) := by simp [Fenced.text]
      rw [htext, body?_block htag b.tick_not_mem_body]
      simp [htag]
    · rw [body?_passed htag]
      simp [htag]

variable {m} {b next : Fenced} {rest : List Fenced}

theorem fragmentL_of_isTag (hblocks : m.blocks = b :: rest) (htag : IsTag b.tag) :
    fragmentL m.text = b.body ∧ m.wanted = b.body := by
  constructor
  · rw [fragmentL, m.body?_text, hblocks]
    simp [htag]
  · simp [wanted, wanted?, hblocks, htag]

theorem fragmentL_of_passed (hblocks : m.blocks = b :: next :: rest) (htag : ¬ IsTag b.tag) :
    fragmentL m.text = b.prose := by
  rw [fragmentL, m.body?_text, hblocks]
  simp [htag]

/-- With at most one block, the fragment is what is wanted. -/
theorem fragmentL_of_single (h : m.blocks.length ≤ 1) : fragmentL m.text = m.wanted := by
  rw [fragmentL, m.body?_text, wanted, wanted?]
  rcases hblocks : m.blocks with _ | ⟨b, _ | ⟨next, rest⟩⟩
  · rfl
  · by_cases htag : IsTag b.tag
    · simp [htag]
    · simp [htag]
  · simp [hblocks] at h

theorem tick_mem_text (hblocks : m.blocks = b :: rest) : '\x60' ∈ m.text := by
  simp [text, hblocks, Fenced.text, ticks]

/-- The prose after a first block in another language is what is wanted only if the block that is
wanted says the same. -/
theorem prose_eq_wanted_iff (hblocks : m.blocks = b :: rest) :
    b.prose = m.wanted ↔ m.wanted?.map Fenced.body = some b.prose := by
  rw [wanted]
  cases hwanted : m.wanted?.map Fenced.body with
  | none =>
    refine iff_of_false ?_ (by simp)
    intro h
    rw [Option.getD_none] at h
    exact b.tick_not_mem_prose (h ▸ tick_mem_text hblocks)
  | some body => simp [eq_comm]

/-- The fragment of a message is the answer that is wanted exactly if the first of several blocks is
without a language or in JSON, unless the prose after it happens to say what the block does that is
wanted.  Otherwise it is that prose. -/
theorem fragment_wanted_iff (m : Message) :
    (fragment (String.ofList m.text) = String.ofList m.wanted ↔
      ∀ b next rest, m.blocks = b :: next :: rest →
        IsTag b.tag ∨ m.wanted?.map Fenced.body = some b.prose) ∧
      ∀ b next rest, m.blocks = b :: next :: rest → ¬ IsTag b.tag →
        fragment (String.ofList m.text) = String.ofList b.prose := by
  have htext : fragment (String.ofList m.text) = String.ofList (fragmentL m.text) := by
    rw [fragment, String.toList_ofList]
  rw [htext, String.ofList_inj]
  refine ⟨⟨?_, ?_⟩, ?_⟩
  · intro h b next rest hblocks
    by_cases htag : IsTag b.tag
    · exact .inl htag
    · right
      rw [fragmentL_of_passed hblocks htag] at h
      exact (prose_eq_wanted_iff hblocks).1 h
  · intro h
    rcases hblocks : m.blocks with _ | ⟨b, _ | ⟨next, rest⟩⟩
    · exact fragmentL_of_single (by simp [hblocks])
    · exact fragmentL_of_single (by simp [hblocks])
    · by_cases htag : IsTag b.tag
      · obtain ⟨hbody, hwanted⟩ := fragmentL_of_isTag hblocks htag
        rw [hbody, hwanted]
      · rw [fragmentL_of_passed hblocks htag, prose_eq_wanted_iff hblocks]
        exact (h b next rest hblocks).resolve_left htag
  · intro b next rest hblocks htag
    rw [fragmentL_of_passed hblocks htag]

/-- A message that shows a script before its answer. -/
def scriptFirst : Message where
  lead := "See:\n".toList
  blocks := [
    { tag := "js".toList, body := "let x\n".toList, prose := "and\n".toList
      tick_not_mem_tag := by decide
      newline_not_mem_tag := by decide
      tick_not_mem_body := by decide
      tick_not_mem_prose := by decide },
    { tag := "json".toList, body := "\x7b\x7d\n".toList, prose := []
      tick_not_mem_tag := by decide
      newline_not_mem_tag := by decide
      tick_not_mem_body := by decide
      tick_not_mem_prose := by decide }]
  tick_not_mem_lead := by decide

/-- The prose between the blocks is taken for the answer. -/
theorem fragment_scriptFirst :
    String.ofList scriptFirst.wanted = "\x7b\x7d\n" ∧
      fragment (String.ofList scriptFirst.text) = "and\n" := by
  decide +kernel

end Message

end InlineReview.Fence
