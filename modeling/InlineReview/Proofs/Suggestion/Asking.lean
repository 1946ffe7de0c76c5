import InlineReview.Proofs.Remote.Requests
import InlineReview.Proofs.Run.Calls
import InlineReview.Proofs.Suggestion.LongNumbers

/-!
# Asking the model

What comes of a question depends on the course of its call alone.  A call that fails in one of the
ways that are excused gives no suggestion, and so does an answer that cannot be read; the other
failures go on.

* `Model.suggestFix_course` — the suggestions drawn from the course of the call.
* `Model.suggestFix_isolated_iff` — when the model cannot make the review fail.
* `Model.suggestFix_undefinedResponse`, `Model.suggestFix_numberResponse` — responses that do.
-/

namespace InlineReview

open Text

/-! ## Questions that can be put -/

theorem isWritable_intercalate {sep : List Char} (h : IsWritable sep) {ls : List (List Char)} :
    IsWritable (sep.intercalate ls) ↔ ∀ l ∈ ls, IsWritable l := by
  induction ls with
  | nil => simp
  | cons l ls ih =>
    cases ls with
    | nil => simp
    | cons r rs =>
      rw [List.intercalate_cons_cons]
      simp [h, ih]

/-- A question can be put if the message and the code are writable. -/
theorem isWritable_prompt (message code : String) :
    IsWritable (prompt message code).toList ↔
      IsWritable message.toList ∧ IsWritable code.toList := by
  rw [prompt, String.toList_intercalate, isWritable_intercalate (by decide)]
  simp only [List.map_cons, List.map_nil, List.forall_mem_cons]
  constructor
  · intro h
    exact ⟨h.2.2.2.2.2.2.2.2.1, h.2.2.2.2.2.2.2.2.2.2.2.1⟩
  · rintro ⟨hmessage, hcode⟩
    simp only [hmessage, hcode, true_and]
    decide +kernel

namespace Model

/-! ## From the call to its suggestions -/

/-- The suggestions of an answer, at most one; none if it cannot be read. -/
def suggestionsOf (raw : String) : Except Failure (List Suggestion) :=
  match Answer.read raw with
  | .error passed => .error (.document (.limit passed))
  | .ok (.suggestions found) => .ok (found.take 1)
  | .ok (.unparseable _ _) => .ok []

/-- The suggestions drawn from the result of a call. -/
def suggestionsFrom (m : Model) : Except Failure String → Except Failure (List Suggestion)
  | .ok raw => suggestionsOf raw
  | .error failure =>
    match m.excuse? failure with
    | some _ => .ok []
    | none => .error failure

/-- The call that asks about a message and some code. -/
def question (m : Model) (message code : String) : Call String := m.generate (prompt message code)

/-- The call with its entries. -/
def asked (m : Model) (guarded : Bool) (message code : String) : Run String :=
  Run.timed (Context.bind [] [("model", .str m.name)]) "gemini_generate"
    (Run.within guarded (some m.timeout) (m.question message code).start)

theorem outcome_suggestFix (m : Model) (guarded : Bool) (message code : String) (w : World) :
    ((m.suggestFix guarded message code).outcome w).1 =
        m.suggestionsFrom ((m.asked guarded message code).outcome w).1 ∧
      ((m.suggestFix guarded message code).outcome w).2.traffic =
        ((m.asked guarded message code).outcome w).2.traffic := by
  rcases hasked : (m.asked guarded message code).outcome w with ⟨failure | raw, w₁⟩
  · have hmap : (some <$> m.asked guarded message code).outcome w = (.error failure, w₁) := by
      rw [Run.outcome_map, hasked]
      rfl
    simp only [suggestFix, Run.outcome_bind, Run.outcome_tryCatch]
    rw [asked, question] at hmap
    rw [hmap]
    simp only [suggestionsFrom]
    cases m.excuse? failure <;> exact ⟨rfl, rfl⟩
  · have hmap : (some <$> m.asked guarded message code).outcome w = (.ok (some raw), w₁) := by
      rw [Run.outcome_map, hasked]
      rfl
    simp only [suggestFix, Run.outcome_bind, Run.outcome_tryCatch]
    rw [asked, question] at hmap
    rw [hmap]
    simp only [suggestionsFrom, suggestionsOf]
    cases Answer.read raw with
    | error passed => exact ⟨rfl, rfl⟩
    | ok reading => cases reading <;> exact ⟨rfl, rfl⟩

theorem suggestFix_course (m : Model) (guarded : Bool) (message code : String) (w : World)
    (cancels : Prop) (hbefore : guarded = true → w.token.isCancelled = true → cancels)
    (hafter : ∀ q, guarded = true → (m.question message code).request = .ok q →
      ((w.receive q).token.cancelTime? (w.receive q).now).isSome = true → cancels) :
    ∃ res, (m.question message code).Course guarded (some m.timeout) cancels w.traffic res
        ((m.suggestFix guarded message code).outcome w).2.traffic ∧
      ((m.suggestFix guarded message code).outcome w).1 = m.suggestionsFrom res := by
  obtain ⟨hresult, htraffic⟩ := m.outcome_suggestFix guarded message code w
  obtain ⟨journal, hasked, hsent⟩ := Run.outcome_timed _ "gemini_generate"
    (Run.within guarded (some m.timeout) (m.question message code).start) w
  rw [htraffic, asked, hsent]
  refine ⟨_, (m.question message code).course_within guarded (some m.timeout)
    { w with journal } cancels hbefore fun q hguarded hrequest h =>
      hafter q hguarded hrequest (by simpa only [World.receive_journal] using h), ?_⟩
  rw [hresult, asked, hasked]

/-! ## Failures that go on -/

/-- Is a response beyond what the reader reads?  The body of an error may nest too deep or be in a
charset that cannot be read.  Any other body may nest too deep, and so may the text in it, which
may also hold a number of too many digits. -/
def IsBeyondReading (response : Response) : Prop :=
  if response.isError then ∃ fault, response.detail = .error fault
  else
    (∃ container, response.json = .error (.unreadable (.limit (.tooDeep container)))) ∨
      ∃ v passed, response.json = .ok v ∧
        Json.readL (trimL (Fence.fragmentL (extractText v).toList)) = .error (.limit passed)

theorem read_eq_error {raw : String} {passed : Json.Limit} :
    Answer.read raw = .error passed ↔
      Json.readL (trimL (Fence.fragmentL raw.toList)) = .error (.limit passed) := by
  unfold Answer.read
  cases hfragment : trimL (Fence.fragmentL raw.toList) with
  | nil => constructor <;> intro h <;> cases h
  | cons c r =>
    rw [if_neg (by simp)]
    rcases Json.readL (c :: r) with (_ | _) | v
    · simp
    · simp
    · simp only [reduceCtorEq, iff_false]
      split <;> simp

theorem suggestionsOf_isolated_iff (raw : String) :
    (∃ found, suggestionsOf raw = .ok found ∧ found.length ≤ 1) ↔
      ∀ passed, Answer.read raw ≠ .error passed := by
  unfold suggestionsOf
  rcases Answer.read raw with passed | (found | _)
  · simp
  · simp only [Except.ok.injEq, exists_eq_left', ne_eq, reduceCtorEq, not_false_eq_true,
      implies_true, iff_true, List.length_take]
    omega
  · simp

theorem length_suggestionsFrom {m : Model} {res : Except Failure String} {found : List Suggestion}
    (h : m.suggestionsFrom res = .ok found) : found.length ≤ 1 := by
  unfold suggestionsFrom suggestionsOf at h
  split at h
  · split at h <;> cases h
    · exact List.length_take_le 1 _
    · simp
  · split at h <;> cases h
    simp

theorem suggestionsFrom_conclude_iff (m : Model) (response : Response) :
    (∃ found, m.suggestionsFrom (conclude response) = .ok found ∧ found.length ≤ 1) ↔
      ¬ IsBeyondReading response := by
  unfold conclude IsBeyondReading
  split
  · cases response.detail with
    | ok detail => simp [suggestionsFrom, excuse?]
    | error fault => cases fault <;> simp [suggestionsFrom, excuse?, Failure.ofDetailFault]
  · rcases hjson : response.json with fault | v
    · split
      · rename_i h
        cases h
      · rename_i h
        cases h
        simp [suggestionsFrom, excuse?]
      · rename_i hother h
        cases h
        have hdeep : ∀ container, fault ≠ .unreadable (.limit (.tooDeep container)) :=
          fun container heq => hother container (by rw [heq])
        simp [suggestionsFrom, excuse?, hdeep]
    · simp only [suggestionsFrom, suggestionsOf_isolated_iff, ne_eq, read_eq_error]
      simp

/-- A question that cannot make the review fail, whatever is wrong with the reply: it can be put,
and a response that comes in time is not beyond reading. -/
structure IsHarmless (m : Model) (message code : String) (reply : Reply) : Prop where
  countable : Run.isUncountable (some m.timeout) = false
  message_writable : IsWritable message.toList
  code_writable : IsWritable code.toList
  readable : ∀ response, reply.isInTime (some m.timeout) = true → reply.result = .ok response →
    ¬ IsBeyondReading response

section Isolation

variable {m : Model} {message code : String} {bare q : Request} {w : World}

theorem request_question
    (haddress : m.client.request .post s!"/models/{m.name}:generateContent" none none = .ok bare)
    (h : IsWritable message.toList ∧ IsWritable code.toList) :
    (m.question message code).request = .ok { bare with
      body := some (payload (prompt message code)), headers := m.client.headersFor true } :=
  Client.request_of_writable haddress
    ((Json.isWritable_question _).2 ((isWritable_prompt message code).2 h))

theorem request_question_error
    (haddress : m.client.request .post s!"/models/{m.name}:generateContent" none none = .ok bare)
    (h : ¬ (IsWritable message.toList ∧ IsWritable code.toList)) :
    ∃ fault, (m.question message code).request = .error (.unwritable fault) :=
  Client.request_of_not_writable haddress fun hwritable =>
    h ((isWritable_prompt message code).1 ((Json.isWritable_question _).1 hwritable))

/-- A question whose request can be put together is writable, and its request differs from the bare
one in its body and its headers alone. -/
theorem parts_of_question
    (haddress : m.client.request .post s!"/models/{m.name}:generateContent" none none = .ok bare)
    (h : (m.question message code).request = .ok q) :
    (IsWritable message.toList ∧ IsWritable code.toList) ∧
      q.remote = bare.remote ∧ q.method = bare.method ∧ q.url = bare.url := by
  by_cases hwritable : IsWritable message.toList ∧ IsWritable code.toList
  · obtain rfl := Except.ok.inj (h.symm.trans (request_question haddress hwritable))
    exact ⟨hwritable, rfl, rfl, rfl⟩
  · obtain ⟨fault, herror⟩ := request_question_error haddress hwritable
    exact absurd (h.symm.trans herror) (by simp)

/-- A reply in time is harmless exactly if its response, if it is one, is not beyond reading. -/
theorem suggestionsFrom_resultOf_iff {call : Call String} {reply : Reply}
    (hconclude : call.conclude = conclude) (hkind : Base.hasKind q.url.toList = true) :
    (∃ found, m.suggestionsFrom (call.resultOf q reply) = .ok found ∧ found.length ≤ 1) ↔
      ∀ response, reply.result = .ok response → ¬ IsBeyondReading response := by
  unfold Call.resultOf
  cases reply.result with
  | error fault => simp [suggestionsFrom, excuse?]
  | ok response => simp [hkind, hconclude, suggestionsFrom_conclude_iff]

/-- A question that is not cancelled gives at most one suggestion and does not fail exactly if it is
harmless or is not put at all. -/
theorem isolated_iff_of_course {guarded : Bool} {t t' : Traffic} {res : Except Failure String}
    (haddress : m.client.request .post s!"/models/{m.name}:generateContent" none none = .ok bare)
    (hkind : Base.hasKind bare.url.toList = true)
    (h : (m.question message code).Course guarded (some m.timeout) False t res t') :
    (∃ found, m.suggestionsFrom res = .ok found ∧ found.length ≤ 1) ↔
      m.IsHarmless message code (t.replyFor bare) ∨
        (guarded = false ∧ Run.hasPassed (some m.timeout) = true) := by
  -- which replies come for the bare request come for the question as well
  have hreply : ∀ q, (m.question message code).request = .ok q →
      t.replyFor q = t.replyFor bare := by
    intro q hq
    obtain ⟨-, hremote, hmethod, -⟩ := parts_of_question haddress hq
    rw [Traffic.replyFor, Traffic.replyFor, hremote, hmethod]
  rcases h with ⟨_, hcancels, _⟩ | ⟨hguarded, hpassed, hres⟩ |
    ⟨huncountable, hguarded, hres⟩ | ⟨e, hstart, hrequest, hres⟩ |
    ⟨q, hstart, hrequest, htime, hres⟩ | ⟨q, shown, hstart, hrequest, htime, hres⟩ |
    ⟨_, _, hcancels, _⟩
  · exact hcancels.elim
  · rw [hres]
    exact iff_of_true ⟨[], rfl, by simp⟩ (.inr ⟨hguarded, hpassed⟩)
  · rw [hres]
    refine iff_of_false (by simp [suggestionsFrom, excuse?]) ?_
    rintro (hharmless | ⟨hfalse, hpassed⟩)
    · simp [hharmless.countable] at huncountable
    · simp [hfalse, hpassed] at hguarded
  · have hunwritable : ¬ (IsWritable message.toList ∧ IsWritable code.toList) := fun h =>
      absurd (hrequest.symm.trans (request_question haddress h)) (by simp)
    obtain ⟨fault, herror⟩ := request_question_error haddress hunwritable
    obtain rfl : e = .unwritable fault := Except.error.inj (hrequest.symm.trans herror)
    rw [hres, or_iff_left (Call.mayStart_iff.1 hstart).2]
    exact iff_of_false (by simp [suggestionsFrom, excuse?]) fun h =>
      hunwritable ⟨h.message_writable, h.code_writable⟩
  · obtain ⟨⟨hmessage, hcode⟩, -, -, hurl⟩ := parts_of_question haddress hrequest
    obtain ⟨hcountable, hput⟩ := Call.mayStart_iff.1 hstart
    rw [hreply q hrequest] at htime hres
    rw [hres, or_iff_left hput, suggestionsFrom_resultOf_iff rfl (by rw [hurl, hkind])]
    exact ⟨fun h => ⟨hcountable, hmessage, hcode, fun r _ => h r⟩, fun h r => h.readable r htime⟩
  · obtain ⟨⟨hmessage, hcode⟩, -, -, -⟩ := parts_of_question haddress hrequest
    obtain ⟨hcountable, hput⟩ := Call.mayStart_iff.1 hstart
    rw [hreply q hrequest] at htime
    rw [hres, or_iff_left hput]
    refine iff_of_true ⟨[], rfl, by simp⟩ ⟨hcountable, hmessage, hcode, fun r hr => ?_⟩
    simp [htime] at hr
  · exact hcancels.elim

/-- The suggestions are drawn from the course of a call that is not cancelled, if the run is never
cancelled. -/
theorem suggestFix_course_of_uncancelled (m : Model) (guarded : Bool) (message code : String)
    (w : World)
    (haddress : m.client.request .post s!"/models/{m.name}:generateContent" none none = .ok bare)
    (hbefore : w.token.isCancelled = false)
    (hafter : (w.receive bare).token.cancelTime? (w.receive bare).now = none) :
    ∃ res t', (m.question message code).Course guarded (some m.timeout) False w.traffic res t' ∧
      ((m.suggestFix guarded message code).outcome w).1 = m.suggestionsFrom res := by
  obtain ⟨res, hcourse, hresult⟩ := m.suggestFix_course guarded message code w False
    (fun _ h => by simp [hbefore] at h) (fun q _ hq h => by
      obtain ⟨-, hremote, hmethod, -⟩ := parts_of_question haddress hq
      rw [w.cancelTime?_receive_congr hremote hmethod, hafter] at h
      cases h)
  exact ⟨res, _, hcourse, hresult⟩

end Isolation

/-- Where the address of the model is valid and the run is never cancelled, asking gives at most one
suggestion and does not fail, exactly if the question is harmless or is not put at all. -/
theorem suggestFix_isolated_iff (m : Model) (guarded : Bool) (message code : String) (w : World)
    {bare : Request}
    (haddress : m.client.request .post s!"/models/{m.name}:generateContent" none none = .ok bare)
    (hkind : Base.hasKind bare.url.toList = true) (hbefore : w.token.isCancelled = false)
    (hafter : (w.receive bare).token.cancelTime? (w.receive bare).now = none) :
    (∃ found, ((m.suggestFix guarded message code).outcome w).1 = .ok found ∧
        found.length ≤ 1) ↔
      m.IsHarmless message code (w.replyFor bare) ∨
        (guarded = false ∧ Run.hasPassed (some m.timeout) = true) := by
  obtain ⟨res, t', hcourse, hresult⟩ :=
    m.suggestFix_course_of_uncancelled guarded message code w haddress hbefore hafter
  rw [hresult, ← World.replyFor_traffic]
  exact isolated_iff_of_course haddress hkind hcourse

/-- A model behind a short address. -/
def sampleModel : Model where
  client := {
    remote := .model
    base := { address := {
      scheme := ['h', 't', 't', 'p'], user := [], host := ['m'], port := none, path := ['/']
      query := none, fragment := none } }
    headers := [Client.jsonHeader] }
  name := "x"
  timeout := .whole 30

/-- The request to it that has no body. -/
def sampleRequest : Request where
  remote := .model
  method := .post
  url := "http://m/models/x:generateContent"
  body := none
  headers := [Client.jsonHeader]

/-- A refusal in an encoding that has no characters. -/
def undefinedResponse : Response where
  status := 400
  mediaType := some "text/plain;charset=undefined"
  body := [0x78]

/-- A world in which the model gives that response. -/
def undefinedWorld : World where
  modelReplies := [{ result := .ok undefinedResponse }]

theorem isBeyondReading_undefinedResponse : IsBeyondReading undefinedResponse :=
  ⟨.charset .nothing, rfl⟩

/-- Asking fails where the model refuses the question in an encoding that has no characters. -/
theorem suggestFix_undefinedResponse :
    sampleModel.client.request .post s!"/models/{sampleModel.name}:generateContent" none none =
        .ok sampleRequest ∧
      Base.hasKind sampleRequest.url.toList = true ∧
      undefinedWorld.token.isCancelled = false ∧
      (undefinedWorld.receive sampleRequest).token.cancelTime?
        (undefinedWorld.receive sampleRequest).now = none ∧
      ¬ ∃ found, ((sampleModel.suggestFix true "" "").outcome undefinedWorld).1 = .ok found ∧
        found.length ≤ 1 := by
  have haddress : sampleModel.client.request .post
      s!"/models/{sampleModel.name}:generateContent" none none = .ok sampleRequest := rfl
  have hkind : Base.hasKind sampleRequest.url.toList = true := by decide +kernel
  refine ⟨haddress, hkind, rfl, rfl, ?_⟩
  rw [suggestFix_isolated_iff sampleModel true "" "" undefinedWorld haddress hkind rfl rfl]
  rintro (hharmless | ⟨hguarded, -⟩)
  · exact hharmless.readable undefinedResponse (by decide) rfl isBeyondReading_undefinedResponse
  · cases hguarded

theorem isBeyondReading_numberResponse {n : Nat} (h : Numeral.digitLimit < n) :
    IsBeyondReading (numberResponse n) := by
  obtain ⟨v, hjson, hread⟩ := readL_numberResponse h
  exact .inr ⟨v, _, hjson, hread⟩

/-- A world in which the answer of the model is a number of so many digits. -/
def numberWorld (n : Nat) : World where
  modelReplies := [{ result := .ok (numberResponse n) }]

/-- Asking fails where the model answers with a number of one digit more than may be read. -/
theorem suggestFix_numberResponse :
    sampleModel.client.request .post s!"/models/{sampleModel.name}:generateContent" none none =
        .ok sampleRequest ∧
      Base.hasKind sampleRequest.url.toList = true ∧
      (numberWorld 4301).token.isCancelled = false ∧
      ((numberWorld 4301).receive sampleRequest).token.cancelTime?
        ((numberWorld 4301).receive sampleRequest).now = none ∧
      ∃ failure,
        ((sampleModel.suggestFix true "" "").outcome (numberWorld 4301)).1 = .error failure := by
  have haddress : sampleModel.client.request .post
      s!"/models/{sampleModel.name}:generateContent" none none = .ok sampleRequest := rfl
  have hkind : Base.hasKind sampleRequest.url.toList = true := by decide +kernel
  refine ⟨haddress, hkind, rfl, rfl, ?_⟩
  obtain ⟨res, t', hcourse, hresult⟩ := sampleModel.suggestFix_course_of_uncancelled true "" ""
    (numberWorld 4301) haddress rfl rfl
  have hisolated := isolated_iff_of_course haddress hkind hcourse
  rw [hresult]
  cases hfound : sampleModel.suggestionsFrom res with
  | error failure => exact ⟨failure, rfl⟩
  | ok found =>
    rcases hisolated.1 ⟨found, hfound, length_suggestionsFrom hfound⟩ with hharmless | ⟨hguarded, -⟩
    · exact absurd (isBeyondReading_numberResponse (by decide))
        (hharmless.readable (numberResponse 4301) rfl rfl)
    · cases hguarded

end Model

end InlineReview
