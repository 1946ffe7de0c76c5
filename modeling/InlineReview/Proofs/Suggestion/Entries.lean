import InlineReview.Proofs.Json.Written
import InlineReview.Proofs.Suggestion.Asking
import InlineReview.Proofs.Suggestion.Extraction
import InlineReview.Proofs.Suggestion.Fences

/-!
# Reading a list of entries

An answer holds a list of entries, each of which may have a text or null as its code and as its
explanation, and further texts under other names.  However the answer is spelled, it is read as the
suggestions of the entries that have both.

* `Answer.read_eq_suggestions_iff` — when an answer is read as a list of suggestions.
* `Answer.readEnvelope_envelope` — the suggestions of a list of entries.
* `Model.outcome_suggestFix_of_answered` — what a question gives that is answered with a text.
* `Answer.read_spelled` — every spelling of a list of entries is read as their suggestions.
-/

namespace InlineReview

open Text

/-! ## Answers that hold suggestions -/

namespace Answer

/-- An answer is read as a list of suggestions exactly if its fragment, without the blanks around
it, is a document that holds them. -/
theorem read_eq_suggestions_iff {raw : String} {found : List Suggestion} :
    read raw = .ok (.suggestions found) ↔
      ∃ v, Json.readL (trimL (Fence.fragmentL raw.toList)) = .ok v ∧
        readEnvelope v = .ok found := by
  unfold read
  cases hfragment : trimL (Fence.fragmentL raw.toList) with
  | nil =>
    constructor
    · intro h
      cases h
    · rintro ⟨v, h, -⟩
      cases h
  | cons c r =>
    rw [if_neg (by simp)]
    cases hread : Json.readL (c :: r) with
    | error fault =>
      constructor
      · intro h
        cases fault <;> cases h
      · rintro ⟨v, h, -⟩
        cases h
    | ok v =>
      cases henvelope : readEnvelope v with
      | error errors => simp [henvelope]
      | ok found' => simp [henvelope]

/-! ## Entries -/

/-- An entry of a list: texts or nulls under different names. -/
structure Entry where
  members : List (String × Option String)
  names_nodup : (members.map Prod.fst).Nodup

namespace Entry

/-- The value of an entry. -/
def value (e : Entry) : Json :=
  .obj (e.members.map fun (name, text?) => (name, Json.ofText? text?))

/-- The text under a name, if there is one. -/
def text? (e : Entry) (name : String) : Option String := (Assoc.get? name e.members).join

/-- The suggestion of an entry, if it has both code and an explanation. -/
def suggestion? (e : Entry) : Option Suggestion := do
  let code ← e.text? "code"
  let explanation ← e.text? "explanation"
  pure { code, explanation }

end Entry

/-- The value of an answer with a list of entries. -/
def envelope (entries : List Entry) : Json :=
  .obj [("suggestions", .arr (entries.map Entry.value))]

theorem get?_map_ofText? (name : String) (ms : List (String × Option String)) :
    Assoc.get? name (ms.map fun (k, text?) => (k, Json.ofText? text?)) =
      (Assoc.get? name ms).map Json.ofText? := by
  induction ms with
  | nil => rfl
  | cons m ms ih =>
    obtain ⟨k, text?⟩ := m
    simp only [List.map_cons, Assoc.get?, ih]
    split
    · rfl
    · rfl

theorem textField_value (name : String) (e : Entry) :
    textField name e.value = (e.text? name, 0) := by
  rw [textField, Entry.value, Json.get?, get?_map_ofText?, Entry.text?]
  rcases Assoc.get? name e.members with _ | _ | s
  · rfl
  · rfl
  · rfl

theorem readEntry_value (e : Entry) : readEntry e.value = (e.suggestion?, 0) := by
  have hcode := textField_value "code" e
  have hexplanation := textField_value "explanation" e
  rw [Entry.value] at hcode hexplanation
  rw [Entry.value, readEntry, hcode, hexplanation, Entry.suggestion?]
  cases e.text? "code" with
  | none => rfl
  | some code => cases e.text? "explanation" <;> rfl

theorem errors_map_value (entries : List Entry) :
    ((entries.map Entry.value).map readEntry).foldl (fun n (_, errors) => n + errors) 0 = 0 := by
  induction entries with
  | nil => rfl
  | cons e entries ih =>
    rw [List.map_cons, List.map_cons, List.foldl_cons, readEntry_value]
    exact ih

/-- The suggestions of a list of entries are those of the entries that have one. -/
theorem readEnvelope_envelope (entries : List Entry) :
    readEnvelope (envelope entries) = .ok (entries.filterMap Entry.suggestion?) := by
  have hfound : ((entries.map Entry.value).map readEntry).filterMap (·.1) =
      entries.filterMap Entry.suggestion? := by
    rw [List.filterMap_map, List.filterMap_map]
    exact congrArg (entries.filterMap ·) (funext fun e => congrArg Prod.fst (readEntry_value e))
  have hentries : readEntries (entries.map Entry.value) =
      .ok (entries.filterMap Entry.suggestion?) := by
    rw [readEntries]
    simp only [errors_map_value, if_pos, hfound]
  exact hentries

theorem not_isBlank_of_mem_openers {c : Char} (h : c ∈ Json.openers) : isBlank c = false :=
  (show ∀ c ∈ Json.openers, isBlank c = false by simp [Json.openers, isBlank]) c h

theorem not_isBlank_of_mem_closers {c : Char} (h : c ∈ Json.closers) : isBlank c = false :=
  (show ∀ c ∈ Json.closers, isBlank c = false by simp [Json.closers, isBlank]) c h

/-- The blanks around a spelled value are trimmed off. -/
theorem trimL_spelled {d : Nat} {p : Json.Part} {lead t trail : List Char}
    (h : Json.Spells d p t) (hlead : ∀ c ∈ lead, isBlank c = true)
    (htrail : ∀ c ∈ trail, isBlank c = true) : trimL (lead ++ t ++ trail) = t := by
  obtain ⟨c, r, hfirst, hc⟩ := h.opener
  obtain ⟨q, e, hlast, he⟩ := h.closer
  have htrimmed : IsTrimmed t := by
    constructor
    · rw [hfirst]
      simpa using not_isBlank_of_mem_openers hc
    · rw [hlast]
      simpa using not_isBlank_of_mem_closers he
  exact trimL_eq_iff.2 ⟨htrimmed, lead, trail, hlead, htrail, rfl⟩

end Answer

/-! ## Questions that are answered -/

namespace Model

/-- A question is answered with a text: a reply to it is heard, and that is a response of success
that holds the text. -/
structure IsAnswered (m : Model) (guarded : Bool) (message code : String) (w : World)
    (text : String) (q : Request) (response : Response) : Prop where
  heard : (m.question message code).IsHeard guarded (some m.timeout) w q
  hasKind : Base.hasKind q.url.toList = true
  result : (w.replyFor q).result = .ok response
  success : 200 ≤ response.status ∧ response.status < 300
  holds : ∃ v, response.json = .ok v ∧ textAt? v = some text

theorem extractText_of_textAt? {v : Json} {text : String} (h : textAt? v = some text)
    (hne : text ≠ "") : extractText v = text :=
  extractText_of_reaches (textAt?_eq_some_iff.1 h) hne

/-- A question that is answered with a text gives the suggestions of that text. -/
theorem outcome_suggestFix_of_answered {m : Model} {guarded : Bool} {message code text : String}
    {w : World} {q : Request} {response : Response}
    (h : m.IsAnswered guarded message code w text q response) (hne : text ≠ "") :
    ((m.suggestFix guarded message code).outcome w).1 = suggestionsOf text := by
  obtain ⟨v, hjson, htext⟩ := h.holds
  have herror : ¬ response.isError = true := by
    have hlow := h.success.2
    simp only [Response.isError, decide_eq_true_eq]
    omega
  have hconclude : conclude response = .ok text := by
    rw [conclude, if_neg herror, hjson]
    exact congrArg Except.ok (extractText_of_textAt? htext hne)
  have hresult : (m.question message code).resultOf q (w.replyFor q) = .ok text := by
    rw [Call.resultOf, h.result]
    simp only [if_pos h.hasKind]
    exact hconclude
  obtain ⟨journal, hasked, -⟩ := Run.outcome_timed (Context.bind [] [("model", .str m.name)])
    "gemini_generate" (Run.within guarded (some m.timeout) (m.question message code).start) w
  rw [(m.outcome_suggestFix guarded message code w).1, asked, hasked,
    Call.outcome_within_heard (h.heard.with_journal journal)]
  exact congrArg m.suggestionsFrom hresult

end Model

/-! ## Spellings of an answer -/

namespace Answer

section Spelled

variable {entries : List Entry} {lead t trail : List Char}

/-- A spelled list of entries is read, if no block opens in what is around it. -/
theorem read_of_trimL (h : Json.Spells Json.nestingLimit (.value (envelope entries)) t)
    {raw : List Char} (htrim : trimL (Fence.fragmentL raw) = t) :
    read (String.ofList raw) = .ok (.suggestions (entries.filterMap Entry.suggestion?)) := by
  apply read_eq_suggestions_iff.2
  refine ⟨envelope entries, ?_, readEnvelope_envelope entries⟩
  rw [String.toList_ofList, htrim]
  exact h.readL

theorem read_blanks (h : Json.Spells Json.nestingLimit (.value (envelope entries)) t)
    (hlead : ∀ c ∈ lead, isBlank c = true) (htrail : ∀ c ∈ trail, isBlank c = true) :
    read (String.ofList (lead ++ t ++ trail)) =
      .ok (.suggestions (entries.filterMap Entry.suggestion?)) := by
  apply read_of_trimL h
  rw [Fence.fragmentL, Fence.body?_document h.readL hlead htrail, Option.getD_none]
  exact trimL_spelled h hlead htrail

end Spelled

/-- Every spelling of a list of entries, with any blanks around it, is read as the suggestions of
the entries that have one, in order; no block opens in it, or in any other document; and a question
that is answered with it gives the first of the suggestions, if there is one. -/
theorem read_spelled (entries : List Entry) {lead t trail : List Char}
    (h : Json.Spells Json.nestingLimit (.value (envelope entries)) t)
    (hlead : ∀ c ∈ lead, isBlank c = true) (htrail : ∀ c ∈ trail, isBlank c = true) :
    read (String.ofList (lead ++ t ++ trail)) =
        .ok (.suggestions (entries.filterMap Entry.suggestion?)) ∧
      (∀ before s v after, Json.readL s = .ok v → (∀ c ∈ before, isBlank c = true) →
        (∀ c ∈ after, isBlank c = true) → Fence.body? (before ++ s ++ after) = none) ∧
      ∀ (m : Model) (guarded : Bool) (message code : String) (w : World) (q : Request)
        (response : Response),
        m.IsAnswered guarded message code w (String.ofList (lead ++ t ++ trail)) q response →
          ((m.suggestFix guarded message code).outcome w).1 =
            .ok ((entries.filterMap Entry.suggestion?).take 1) := by
  have hread := read_blanks h hlead htrail
  refine ⟨hread, ?_, ?_⟩
  · intro before s v after hs hbefore hafter
    exact Fence.body?_document hs hbefore hafter
  · intro m guarded message code w q response hanswered
    have hne : String.ofList (lead ++ t ++ trail) ≠ "" := by
      intro hempty
      obtain ⟨c, r, rfl, -⟩ := h.opener
      have hnil := congrArg String.toList hempty
      simp at hnil
    rw [Model.outcome_suggestFix_of_answered hanswered hne, Model.suggestionsOf, hread]

/-! ## An example -/

/-- Two entries; only the second has both code and an explanation. -/
def sampleEntries : List Entry :=
  [ { members := [("code", none)], names_nodup := by decide },
    { members := [("code", some "\x60\x60\x60\n"), ("explanation", some "é")]
      names_nodup := by decide } ]

/-- A spelling of the second of them, with an escape for its accent. -/
def sampleEntryText : List Char :=
  '\x7b' :: (Json.quoted "code".toList ++ ':' :: (Json.quoted "\x60\x60\x60\x5cn".toList ++ ',' ::
    (Json.quoted "explanation".toList ++ ' ' :: ':' ::
      (Json.quoted "\x5cu00E9".toList ++ ['\x7d']))))

/-- A spelling of both, with a space between them. -/
def sampleText : List Char :=
  Json.braced "suggestions"
    ('[' :: (Json.braced "code" "null".toList ++ ',' :: ' ' :: (sampleEntryText ++ [']'])))

theorem spells_sampleText :
    Json.Spells Json.nestingLimit (.value (envelope sampleEntries)) sampleText := by
  have hticks : Json.SpellsText "\x60\x60\x60\n".toList "\x60\x60\x60\x5cn".toList :=
    Json.spellsText_plain "\x60\x60\x60\n".toList
  have hquad : Json.IsQuad ['0', '0', 'E', '9'] 0xE9 := ⟨by decide, by decide⟩
  have haccent : Json.SpellsText "é".toList "\x5cu00E9".toList :=
    .unit hquad (fun hhigh => absurd hhigh (by decide)) .nil
  have hexplanation : Json.SpellsText "explanation".toList "explanation".toList :=
    .of_plain (by decide)
  have hfirst : Json.Spells 998 (.value (.obj [("code", .null)]))
      (Json.braced "code" "null".toList) :=
    (Json.Spells.word (by simp [Json.literals])).braced "code" (by decide)
  have hsecond : Json.Spells 998 (.value (.obj [("code", .str "\x60\x60\x60\n"),
      ("explanation", .str "é")])) sampleEntryText := by
    have hlast := Json.Spells.lastMember (d := 997) hexplanation Json.isSpacing_blank
      Json.isSpacing_nil (.string haccent) Json.isSpacing_nil
    have hmembers := (Json.Spells.string hticks).named "code" (by decide) hlast
    have hobject := Json.Spells.object (by decide) Json.isSpacing_nil hmembers
    exact hobject
  have helements := Json.Spells.element hfirst Json.isSpacing_nil Json.isSpacing_blank
    (.lastElement hsecond Json.isSpacing_nil)
  have harray := Json.Spells.array Json.isSpacing_nil helements
  exact harray.braced "suggestions" (by decide)

/-- The spelling with blanks around it, as a text. -/
def sampleAnswer : List Char := ['\n'] ++ sampleText ++ [' ']

/-- A response that holds it. -/
def sampleResponse : Response where
  status := 200
  mediaType := none
  body := Utf8.encode (Model.envelope (sampleAnswer.flatMap Json.plainChar))

/-- A world in which the model gives that response after two seconds. -/
def sampleWorld : World where
  modelReplies := [{ delay := 2, result := .ok sampleResponse }]

/-- The request for a repair of nothing. -/
def sampleQuestion : Request :=
  { Model.sampleRequest with
    body := some (Model.payload (prompt "" ""))
    headers := Model.sampleModel.client.headersFor true }

theorem isAnswered_sampleWorld :
    Model.sampleModel.IsAnswered true "" "" sampleWorld (String.ofList sampleAnswer) sampleQuestion
      sampleResponse where
  heard := {
    start := by decide
    heeded := fun _ => rfl
    request :=
      have haddress : Model.sampleModel.client.request .post
          s!"/models/{Model.sampleModel.name}:generateContent" none none =
            .ok Model.sampleRequest := rfl
      Model.request_question haddress ⟨by decide, by decide⟩
    inTime := by decide
    waited := fun _ => rfl }
  hasKind := by decide +kernel
  result := rfl
  success := by decide
  holds := ⟨_, Model.json_of_envelope (Json.spellsText_plain sampleAnswer) (by decide) rfl, rfl⟩

/-- Two entries are read as the one suggestion that they hold. -/
theorem read_sampleAnswer :
    Json.Spells Json.nestingLimit (.value (envelope sampleEntries)) sampleText ∧
      (∀ c ∈ ['\n'], isBlank c = true) ∧ (∀ c ∈ [' '], isBlank c = true) ∧
      Model.sampleModel.IsAnswered true "" "" sampleWorld (String.ofList sampleAnswer)
        sampleQuestion sampleResponse ∧
      read (String.ofList sampleAnswer) =
        .ok (.suggestions [{ code := "\x60\x60\x60\n", explanation := "é" }]) ∧
      Fence.body? sampleAnswer = none ∧
      ((Model.sampleModel.suggestFix true "" "").outcome sampleWorld).1 =
        .ok [{ code := "\x60\x60\x60\n", explanation := "é" }] := by
  have hlead : ∀ c ∈ ['\n'], isBlank c = true := by simp [isBlank]
  have htrail : ∀ c ∈ [' '], isBlank c = true := by simp [isBlank]
  obtain ⟨hread, hbody, hanswered⟩ :=
    read_spelled sampleEntries spells_sampleText hlead htrail
  exact ⟨spells_sampleText, hlead, htrail, isAnswered_sampleWorld, hread,
    hbody _ _ _ _ spells_sampleText.readL hlead htrail,
    hanswered _ _ _ _ _ _ _ isAnswered_sampleWorld⟩

end Answer

end InlineReview
