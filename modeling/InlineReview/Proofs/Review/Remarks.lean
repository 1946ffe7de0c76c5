import InlineReview.Proofs.Review.Steps

/-!
# Questions and comments

What a single question and a single comment do to the traffic.  Whether they fail or not, they send
nothing but their request.  In a calm run a comment never fails, and neither does a harmless
question.

* `Model.obeys_suggestFix`, `Model.isOk_suggestFix` — what a question sends, and when it succeeds.
* `Reviewer.obeys_postComment` — what placing a comment sends.
-/

namespace InlineReview

/-- Is this a question or a comment? -/
def Purpose.IsRemark : Purpose → Prop
  | .question _ => True
  | .comment _ _ => True
  | _ => False

/-- Are questions and comments all that is sent? -/
def Traffic.Remarks (t t' : Traffic) : Prop :=
  ∃ qs, t' = t.sendAll qs ∧ ∀ q ∈ qs, q.purpose.IsRemark

namespace Traffic

theorem Remarks.refl (t : Traffic) : t.Remarks t := ⟨[], rfl, by simp⟩

theorem Remarks.trans {t t₁ t' : Traffic} (h : t.Remarks t₁) (h' : t₁.Remarks t') :
    t.Remarks t' := by
  obtain ⟨qs, rfl, hqs⟩ := h
  obtain ⟨ps, rfl, hps⟩ := h'
  refine ⟨qs ++ ps, (t.sendAll_append qs ps).symm, fun q hq => ?_⟩
  rcases List.mem_append.1 hq with hq | hq
  · exact hqs q hq
  · exact hps q hq

end Traffic

/-! ## Questions -/

namespace Client

/-- Why a request cannot be put together. -/
theorem fault_of_request {c : Client} {method : Method} {path : String}
    {parameters : Option String} {body : Option Json} {e : Failure}
    (h : c.request method path parameters body = .error e) :
    (∃ remote, e = .closed remote) ∨ (∃ fault, e = .address fault) ∨
      (∃ fault, e = .unwritable fault) ∨ ∃ fault, e = .hostName fault := by
  unfold request at h
  simp only [bind, Except.bind, pure, Except.pure, throw, throwThe, MonadExceptOf.throw] at h
  split at h
  · exact .inl ⟨.codeHost, (Except.error.inj h).symm⟩
  cases haddress : c.base.request path parameters with
  | error fault =>
    rw [haddress] at h
    exact .inr (.inl ⟨fault, (Except.error.inj h).symm⟩)
  | ok address =>
    rw [haddress] at h
    cases hbody : checkBody body with
    | error fault =>
      rw [hbody] at h
      exact .inr (.inr (.inl ⟨fault, (Except.error.inj h).symm⟩))
    | ok _ =>
      rw [hbody] at h
      cases hheader : Base.checkHeader address with
      | error fault =>
        simp only [hheader, Except.mapError] at h
        exact .inr (.inr (.inl ⟨fault, (Except.error.inj h).symm⟩))
      | ok _ =>
        simp only [hheader, Except.mapError] at h
        split at h
        · exact .inl ⟨c.remote, (Except.error.inj h).symm⟩
        cases hname : Base.checkName address with
        | error fault =>
          rw [hname] at h
          exact .inr (.inr (.inr ⟨fault, (Except.error.inj h).symm⟩))
        | ok _ =>
          rw [hname] at h
          cases h

end Client

namespace Model

theorem excuse?_of_request {m : Model} {message code : String} {e : Failure}
    (h : (m.question message code).request = .error e) : m.excuse? e = none := by
  rcases Client.fault_of_request h with ⟨_, rfl⟩ | ⟨_, rfl⟩ | ⟨_, rfl⟩ | ⟨_, rfl⟩ <;> rfl

theorem answerOf_of_heard {m : Model} {message code : String} {q : Request} {reply : Reply}
    {found : List Suggestion} (htime : reply.isInTime (some m.timeout) = true)
    (h : m.suggestionsFrom ((m.question message code).resultOf q reply) = .ok found) :
    found = m.answerOf reply := by
  unfold Call.resultOf at h
  rw [answerOf, if_pos htime]
  cases hresult : reply.result with
  | error fault =>
    rw [hresult] at h
    exact (Except.ok.inj h).symm
  | ok response =>
    simp only [hresult] at h
    split at h
    · have hdrawn : m.suggestionsFrom (conclude response) = .ok found := h
      simp only [hdrawn]
      rfl
    · cases h

/-- A guarded question sends at most its request, and exactly that if it does not fail. -/
theorem obeys_suggestFix {m : Model} (hremote : m.client.remote = .model)
    (message code : String) :
    (m.suggestFix true message code).Obeys fun t res t' => t.Remarks t' ∧
      ∀ found, res = .ok found → ∃ q, q.remote = .model ∧
        q.purpose = .question (prompt message code) ∧ t' = t.send q ∧
        found = m.answerOf (t.modelReplies.head?.getD (Reply.last .post)) := by
  intro w
  obtain ⟨res, hcourse, hresult⟩ := m.suggestFix_course true message code w True
    (fun _ _ => trivial) fun _ _ _ _ => trivial
  rw [hresult]
  have hsent : ∀ q, (m.question message code).request = .ok q →
      w.traffic.Remarks (w.traffic.send q) := fun q hq =>
    ⟨[q], rfl, by simp [(purpose_question hremote hq).2, Purpose.IsRemark]⟩
  have hreply : ∀ q, (m.question message code).request = .ok q →
      w.traffic.replyFor q = w.traffic.modelReplies.head?.getD (Reply.last .post) := by
    intro q hq
    rw [Traffic.replyFor, (purpose_question hremote hq).1, (Client.parts_of_request hq).2.1]
    rfl
  rcases hcourse with ⟨reason, -, -, hres, htraffic⟩ | ⟨hguarded, -⟩ | ⟨-, -, hres, htraffic⟩ |
    ⟨e, -, hrequest, hres, htraffic⟩ | ⟨q, -, hrequest, htime, hres, htraffic⟩ |
    ⟨q, shown, -, hrequest, htime, hres, htraffic⟩ | ⟨q, reason, -, -, hrequest, hres, htraffic⟩
  · rw [hres, htraffic]
    exact ⟨⟨[], rfl, by simp⟩, fun _ h => by cases h⟩
  · cases hguarded
  · rw [hres, htraffic]
    exact ⟨⟨[], rfl, by simp⟩, fun _ h => by cases h⟩
  · rw [hres, htraffic]
    refine ⟨⟨[], rfl, by simp⟩, fun _ h => ?_⟩
    simp [suggestionsFrom, excuse?_of_request hrequest] at h
  · rw [hres, htraffic]
    refine ⟨hsent q hrequest, fun found h => ⟨q, ?_⟩⟩
    obtain ⟨hq, hpurpose⟩ := purpose_question hremote hrequest
    refine ⟨hq, hpurpose, rfl, ?_⟩
    rw [hreply q hrequest] at htime h
    exact answerOf_of_heard htime h
  · rw [hres, htraffic]
    refine ⟨hsent q hrequest, fun found h => ⟨q, ?_⟩⟩
    obtain ⟨hq, hpurpose⟩ := purpose_question hremote hrequest
    refine ⟨hq, hpurpose, rfl, ?_⟩
    rw [hreply q hrequest] at htime
    obtain rfl := Except.ok.inj h
    simp [answerOf, htime]
  · rw [hres, htraffic]
    exact ⟨hsent q hrequest, fun _ h => by cases h⟩

/-- Can requests to the model be put together? -/
def IsAddressed (m : Model) : Prop :=
  ∃ bare, m.client.request .post s!"/models/{m.name}:generateContent" none none = .ok bare ∧
    Base.hasKind bare.url.toList = true

/-- A harmless question does not fail in a calm run. -/
theorem isOk_suggestFix {m : Model} (hremote : m.client.remote = .model) (message code : String) :
    (m.suggestFix true message code).Obeys fun t res _ => t.isCalm = true → m.IsAddressed →
      m.IsHarmless message code (t.modelReplies.head?.getD (Reply.last .post)) →
        ∃ found, res = .ok found := by
  intro w hcalm haddressed hharmless
  obtain ⟨bare, haddress, hkind⟩ := haddressed
  have hnever : w.traffic.isCalm ≠ false := by simp [hcalm]
  obtain ⟨res, hcourse, hresult⟩ := m.suggestFix_course true message code w False
    (fun _ h => hnever (World.isCalm_eq_false_of_isCancelled h)) fun q _ _ h =>
      hnever ((w.isCalm_receive q).symm.trans (World.isCalm_eq_false_of_cancelTime? h))
  have hreply : w.traffic.replyFor bare = w.modelReplies.head?.getD (Reply.last .post) := by
    obtain ⟨hbare, hmethod, -⟩ := Client.parts_of_request haddress
    rw [Traffic.replyFor, hbare, hremote, hmethod]
    rfl
  obtain ⟨found, hfound, -⟩ := (isolated_iff_of_course haddress hkind hcourse).2
    (.inl (by rw [hreply]; exact hharmless))
  exact ⟨found, hresult.trans hfound⟩

end Model

/-! ## Comments -/

namespace CodeHost

/-- Does a computation that fails not fail as a cancellation does? -/
def IsUncancelled {α : Type} (x : Except Failure α) : Prop :=
  ∀ e, x = .error e → e.isCancelled = false

theorem IsUncancelled.bind {α β : Type} {x : Except Failure α} {f : α → Except Failure β}
    (hx : IsUncancelled x) (hf : ∀ a, IsUncancelled (f a)) : IsUncancelled (x >>= f) := by
  intro e h
  cases x with
  | error e' => exact hx e (Except.error.inj h ▸ rfl)
  | ok a => exact hf a e h

theorem isUncancelled_resourcePath (fullName rest : String) :
    IsUncancelled (resourcePath fullName rest) := by
  refine IsUncancelled.bind (fun e h => ?_) fun _ e h => by cases h
  unfold splitName at h
  split at h
  · obtain rfl := Except.error.inj h
    rfl
  · cases h

theorem isUncancelled_accept (path : String) (response : Response) :
    IsUncancelled (accept path response) := by
  intro e h
  unfold accept at h
  split at h
  · cases h
  split at h
  · obtain rfl := Except.error.inj h
    rfl
  cases hdetail : response.detail with
  | ok detail =>
    simp only [hdetail] at h
    obtain rfl := Except.error.inj h
    rfl
  | error fault =>
    simp only [hdetail] at h
    obtain rfl := Except.error.inj h
    cases fault <;> rfl

theorem isUncancelled_bodyOf (response : Response) : IsUncancelled (bodyOf response) := by
  intro e h
  unfold bodyOf at h
  cases hjson : response.json with
  | ok v =>
    rw [hjson] at h
    cases h
  | error fault =>
    rw [hjson] at h
    obtain rfl := Except.error.inj h
    cases fault <;> rfl

section Calls

variable {c : Client} {fullName rest : String} {method : Method} {parameters : Option String}
  {body : Option Json}

/-- The request of a call of the code host may not be put together, but that cancels nothing. -/
theorem isUncancelled_request :
    IsUncancelled (call c method (resourcePath fullName rest) parameters body bodyOf).request := by
  rw [request_call]
  refine (isUncancelled_resourcePath fullName rest).bind fun path e h => ?_
  rcases Client.fault_of_request h with ⟨_, rfl⟩ | ⟨_, rfl⟩ | ⟨_, rfl⟩ | ⟨_, rfl⟩ <;> rfl

/-- A reply of the code host may be of no use, but it cancels nothing. -/
theorem isUncancelled_resultOf (q : Request) (reply : Reply) :
    IsUncancelled ((call c method (resourcePath fullName rest) parameters body bodyOf).resultOf q
      reply) := by
  intro e h
  unfold Call.resultOf at h
  cases hresult : reply.result with
  | error fault =>
    simp only [hresult] at h
    obtain rfl := Except.error.inj h
    rfl
  | ok response =>
    simp only [hresult] at h
    split at h
    · exact (isUncancelled_resourcePath fullName rest).bind (fun path =>
        (isUncancelled_accept path response).bind isUncancelled_bodyOf) e h
    · obtain rfl := Except.error.inj h
      rfl

end Calls

end CodeHost

namespace Reviewer

theorem obeys_excuseComment (r : Reviewer) (c : InlineComment) (failure : Failure) :
    (r.excuseComment c failure).Obeys fun t res t' =>
      t' = t ∧ (res = .ok () ↔ failure.isCancelled = false) := by
  have hexcused : ∀ {x : Run Unit}, x.IsQuiet → failure.isCancelled = false →
      x.Obeys fun t res t' => t' = t ∧ (res = .ok () ↔ failure.isCancelled = false) :=
    fun hx h => hx.imp fun t res t' hquiet => ⟨hquiet.2, iff_of_true hquiet.1 h⟩
  cases failure with
  | cancelled reason =>
    refine (Run.obeys_throw (.cancelled reason)).imp ?_
    rintro t res t' ⟨rfl, rfl⟩
    exact ⟨rfl, iff_of_false (by simp) (by simp [Failure.isCancelled])⟩
  | _ => exact hexcused (Run.isQuiet_noteFailure _ _ _) rfl

/-- Has a comment been posted, or could its request not be put together? -/
def Posts (r : Reviewer) (pull : Int) (commit : Option String) (c : InlineComment)
    (t t' : Traffic) : Prop :=
  ∃ qs, t' = t.sendAll qs ∧ (∀ q ∈ qs, q.remote = .codeHost) ∧
    qs.map Request.purpose = ([c].filter (r.isPostable pull commit)).map (.comment commit)

section Comment

variable {r : Reviewer} {pull : Int} {commit : Option String} {c : InlineComment} {t t' : Traffic}

theorem Posts.of_ok {q : Request} (hremote : r.host.remote = .codeHost)
    (h : (r.commentCall pull commit c).request = .ok q) : r.Posts pull commit c t (t.send q) := by
  obtain ⟨hq, hpurpose⟩ := purpose_comment hremote h
  have hpostable : r.isPostable pull commit c = true := by
    rw [isPostable, h]
    rfl
  exact ⟨[q], rfl, by simpa using hq, by simp [hpostable, hpurpose]⟩

theorem Posts.of_error {e : Failure} (h : (r.commentCall pull commit c).request = .error e) :
    r.Posts pull commit c t t := by
  have hpostable : r.isPostable pull commit c = false := by
    rw [isPostable, h]
    rfl
  exact ⟨[], rfl, by simp, by simp [hpostable]⟩

theorem Posts.remarks (h : r.Posts pull commit c t t') : t.Remarks t' := by
  obtain ⟨qs, rfl, -, hpurposes⟩ := h
  refine ⟨qs, rfl, fun q hq => ?_⟩
  have hmem : q.purpose ∈ qs.map Request.purpose := List.mem_map_of_mem hq
  rw [hpurposes] at hmem
  obtain ⟨c', -, hc'⟩ := List.mem_map.1 hmem
  rw [← hc']
  trivial

/-- The course of a comment that nothing can cancel does not end in a cancellation. -/
theorem isUncancelled_of_course {d : Double} {res : Except Failure Json}
    (h : (r.commentCall pull commit c).Course true (some (.real d)) False t res t') :
    CodeHost.IsUncancelled res := by
  rcases h with ⟨_, hcancels, _⟩ | ⟨hguarded, -⟩ | ⟨huncountable, -⟩ |
    ⟨e, -, hrequest, hres, -⟩ | ⟨q, -, -, -, hres, -⟩ | ⟨q, _, -, -, -, hres, -⟩ |
    ⟨_, _, hcancels, _⟩
  · exact hcancels.elim
  · cases hguarded
  · cases huncountable
  · rw [hres]
    intro e' h
    obtain rfl := Except.error.inj h
    exact CodeHost.isUncancelled_request e hrequest
  · rw [hres]
    exact CodeHost.isUncancelled_resultOf q _
  · rw [hres]
    intro e' h
    obtain rfl := Except.error.inj h
    rfl
  · exact hcancels.elim

theorem posts_of_course {d : Double} {cancels : Prop} {res : Except Failure Json}
    (hremote : r.host.remote = .codeHost)
    (h : (r.commentCall pull commit c).Course true (some (.real d)) cancels t res t') :
    t.Remarks t' ∧ (r.Posts pull commit c t t' ∨ ∃ reason, res = .error (.cancelled reason)) := by
  rcases h with ⟨reason, -, -, hres, rfl⟩ | ⟨hguarded, -⟩ | ⟨huncountable, -⟩ |
    ⟨e, -, hrequest, -, rfl⟩ | ⟨q, -, hrequest, -, -, rfl⟩ | ⟨q, _, -, hrequest, -, -, rfl⟩ |
    ⟨q, reason, -, -, hrequest, hres, rfl⟩
  · exact ⟨⟨[], rfl, by simp⟩, .inr ⟨reason, hres⟩⟩
  · cases hguarded
  · cases huncountable
  · have hposts := Posts.of_error (t := t') hrequest
    exact ⟨hposts.remarks, .inl hposts⟩
  · have hposts := Posts.of_ok (t := t) hremote hrequest
    exact ⟨hposts.remarks, .inl hposts⟩
  · have hposts := Posts.of_ok (t := t) hremote hrequest
    exact ⟨hposts.remarks, .inl hposts⟩
  · exact ⟨(Posts.of_ok (t := t) hremote hrequest).remarks, .inr ⟨reason, hres⟩⟩

end Comment

/-- Placing a comment sends at most its request.  If the review goes on, which it does in a calm
run, the request has been sent exactly if it could be put together. -/
theorem obeys_postComment {r : Reviewer} (hremote : r.host.remote = .codeHost) (pull : Int)
    (commit : Option String) (c : InlineComment) :
    (r.postComment pull commit c).Obeys fun t res t' =>
      t.Remarks t' ∧ (res = .ok () → r.Posts pull commit c t t') ∧
        (t.isCalm = true → res = .ok ()) := by
  have hcall := (r.commentCall pull commit c).obeys_within (some (.real r.settings.timeout))
  refine ((hcall.bind fun _ => Run.isQuiet_note _ _ _).tryCatch (r.obeys_excuseComment c)).imp ?_
  rintro t res t' (⟨_, (⟨_, _, h⟩ | ⟨_, t₁, hcourse, -, rfl⟩), rfl⟩ |
    ⟨e, t₁, (⟨e', hcourse, h⟩ | ⟨_, _, _, h, _⟩), rfl, hgoes⟩)
  · cases h
  · obtain ⟨hremarks, hposts⟩ := posts_of_course hremote hcourse
    exact ⟨hremarks, fun _ => hposts.resolve_right (by simp), fun _ => rfl⟩
  · obtain rfl := Except.error.inj h
    obtain ⟨hremarks, hposts⟩ := posts_of_course hremote hcourse
    refine ⟨hremarks, fun hok => hposts.resolve_right ?_, fun hcalm => hgoes.2 ?_⟩
    · rintro ⟨reason, hcancelled⟩
      rw [Except.error.inj hcancelled] at hgoes
      exact absurd (hgoes.1 hok) (by simp [Failure.isCancelled])
    · rw [hcalm] at hcourse
      simp only [Bool.true_eq_false] at hcourse
      exact isUncancelled_of_course hcourse _ rfl
  · cases h

end Reviewer

end InlineReview
