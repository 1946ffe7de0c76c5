import InlineReview.Proofs.Review.Endings
import InlineReview.Proofs.Review.Refusals
import InlineReview.Proofs.Run.Exchanges

/-!
# What is published about a review

A review publishes at most one summary of its own, as the last thing that it does, and fails if it
cannot read what the host answers to that.  The failure is published in turn, so that a commit shows
two summaries of one run exactly if the host accepts the first one in an answer whose body cannot be
read, and then the second one.

* `Reviewer.obeys_concludes` — a review sends its summary last.
* `Action.runReview_publishes` — how many check runs are published, and when there are two.
-/

namespace InlineReview

/-- Is the status one of success? -/
def Response.isSuccess (r : Response) : Bool := 200 ≤ r.status && r.status < 300

theorem Response.isError_of_isSuccess {r : Response} (h : r.isSuccess = true) :
    r.isError = false := by
  simp only [isSuccess, Bool.and_eq_true, decide_eq_true_eq] at h
  simp only [isError, decide_eq_false_iff_not]
  omega

namespace Exchange

/-- Is a check run published?  It is asked for, and the answer tells of success. -/
def isPublished (e : Exchange) : Bool :=
  e.request.purpose.published?.isSome &&
    match e.reply.result with
    | .ok r => r.isSuccess
    | .error _ => false

/-- Is the check run of a summary asked for? -/
def Summarises (s : Settings) (summary : Summary) (e : Exchange) : Prop :=
  ∃ sha, e.request.purpose = .checkRun (Reviewer.summaryRun s sha summary).published

/-- Does a call fail although its answer tells of success?  The body of that cannot be read, or the
address has no scheme. -/
def IsUnread (e : Exchange) (failure : Failure) : Prop :=
  ∃ response, e.reply.result = .ok response ∧ response.isSuccess = true ∧
    ((∃ fault, response.json = .error fault ∧ failure = Failure.ofBodyFault fault) ∨
      (Base.hasKind e.request.url.toList = false ∧ failure = .unknownKind e.request.url))

end Exchange

/-- Are two check runs published?  The first is the summary of a review, with an answer that is not
read, and the second tells of that failure. -/
def PublishesTwice (s : Settings) (es : List Exchange) : Prop :=
  ∃ front first second summary failure, es = front ++ [first, second] ∧
    (summary = .noFiles ∨ summary = .noIssues) ∧ first.Summarises s summary ∧
    first.IsUnread failure ∧ second.Summarises s (.failed failure.message) ∧
    second.isPublished = true

/-! ## Parts that publish nothing -/

/-- Does an action publish nothing, whatever it sends? -/
def Run.IsDiscreet {α : Type} (x : Run α) : Prop :=
  x.Obeys fun t _ t' => ∃ qs, t.Sends qs t' ∧ ∀ q ∈ qs, q.purpose.published? = none

namespace Run

variable {α : Type} {x : Run α}

theorem IsDiscreet.of_traffic (hx : x.Obeys fun t _ t' => t' = t) : x.IsDiscreet :=
  hx.imp fun _ _ _ h => ⟨[], .of_sendAll h, by simp⟩

theorem isDiscreet_checkCancelled : checkCancelled.IsDiscreet :=
  .of_traffic (obeys_checkCancelled.imp fun _ _ _ h => h.1)

end Run

theorem Linter.isDiscreet_run (l : Linter) (files : List String) : (l.run files).IsDiscreet :=
  (l.obeys_run files).imp fun _ _ _ h => ⟨[], h.1.sends, by simp⟩

namespace Reviewer

variable {r : Reviewer}

theorem isDiscreet_fetchChangedFiles {host : Client} (hremote : host.remote = .codeHost)
    (fullName : String) (pull : Int) (extensions : List String) :
    (fetchChangedFiles host fullName pull extensions).IsDiscreet := by
  refine (obeys_fetchChangedFiles hremote fullName pull extensions).imp ?_
  rintro t res t' ⟨qs, hlists, -⟩
  exact ⟨qs, .of_sendAll hlists.1, fun q hq => by rw [(hlists.2 q hq).2]; rfl⟩

theorem isDiscreet_reviewResults (hhost : r.host.remote = .codeHost)
    (hmodel : r.model.client.remote = .model) (pull : Int) (commit : Option String)
    (files : List ChangedFile) (results : List LintResult) :
    (r.reviewResults pull commit files results).IsDiscreet := by
  refine (obeys_reviewResults hhost hmodel pull commit files results).imp ?_
  rintro t res t' hreviews
  obtain ⟨qs, hqs, hremarks⟩ := hreviews.sends
  exact ⟨qs, .of_sendAll hqs, fun q hq => Action.published_of_isRemark (hremarks q hq)⟩

/-! ## Summaries that come last -/

/-- How an action ends that publishes a summary last, if at all: then it fails as the call does. -/
inductive Concludes (r : Reviewer) (t : Traffic) (res : Except Failure Outcome) (t' : Traffic) :
    Prop
  | discreetly {qs : List Request} (hsends : t.Sends qs t')
      (hdiscreet : ∀ q ∈ qs, q.purpose.published? = none)
  | summarising {qs : List Request} {q : Request} {sha : String} {summary : Summary}
      (hsends : t.Sends (qs ++ [q]) t') (hdiscreet : ∀ q ∈ qs, q.purpose.published? = none)
      (hsummary : summary = .noFiles ∨ summary = .noIssues)
      (hrequest : (summaryCall r.host r.settings sha summary).request = .ok q)
      (hfails : ∀ e, res = .error e →
        (summaryCall r.host r.settings sha summary).resultOf q ((t.sendAll qs).replyFor q) =
          .error e)

/-- What publishes nothing may come before. -/
theorem obeys_concludes_bind {α : Type} {x : Run α} {f : α → Run Outcome} (hx : x.IsDiscreet)
    (hf : ∀ a, (f a).Obeys r.Concludes) : (x >>= f).Obeys r.Concludes := by
  refine (Run.Obeys.bind hx hf).imp ?_
  rintro t res t' (⟨e, ⟨qs, hsends, hdiscreet⟩, rfl⟩ |
    ⟨a, t₁, ⟨qs, hsends, hdiscreet⟩, hconcludes⟩)
  · exact .discreetly hsends hdiscreet
  · cases hconcludes with
    | @discreetly ps hsends' hdiscreet' =>
      exact .discreetly (hsends.trans hsends') (List.forall_mem_append.2 ⟨hdiscreet, hdiscreet'⟩)
    | @summarising ps q sha summary hsends' hdiscreet' hsummary hrequest hfails =>
      have hreply : (t₁.sendAll ps).replyFor q = (t.sendAll (qs ++ ps)).replyFor q := by
        rw [Traffic.sendAll_append]
        exact Traffic.replyFor_congr (Traffic.replies_sendAll_congr hsends.replies_eq ps) q
      rw [hreply] at hfails
      have hall := hsends.trans hsends'
      rw [← List.append_assoc] at hall
      exact .summarising hall (List.forall_mem_append.2 ⟨hdiscreet, hdiscreet'⟩) hsummary hrequest
        hfails

/-- Publishing a summary sends one request at most, and fails as the call does. -/
theorem obeys_postSummary_last (host : Client) (s : Settings) (commit : Option String)
    (summary : Summary) :
    (postSummary host s commit summary).Obeys fun t res t' =>
      t' = t ∨ ∃ sha q, (summaryCall host s sha summary).request = .ok q ∧ t' = t.send q ∧
        ∀ e, res = .error e →
          (summaryCall host s sha summary).resultOf q (t.replyFor q) = .error e := by
  unfold postSummary
  split
  · exact (Run.isQuiet_note _ _ _).imp fun _ _ _ h => .inl h.2
  · exact (Run.isQuiet_note _ _ _).imp fun _ _ _ h => .inl h.2
  · rename_i sha _
    refine ((summaryCall host s sha summary).obeys_perform.bind fun _ => Run.obeys_pure ()).imp ?_
    rintro t res t' (⟨e, ⟨_, _, _, rfl⟩ | ⟨q, hrequest, hres, rfl⟩, rfl⟩ |
      ⟨v, t₁, ⟨_, _, h, _⟩ | ⟨q, hrequest, hres, rfl⟩, rfl, rfl⟩)
    · exact .inl rfl
    · refine .inr ⟨sha, q, hrequest, rfl, fun e' he' => ?_⟩
      rw [← Except.error.inj he']
      exact hres.symm
    · cases h
    · exact .inr ⟨sha, q, hrequest, rfl, fun e he => nomatch he⟩

/-- A summary is published last. -/
theorem obeys_concludes_summary (commit : Option String) {summary : Summary} (outcome : Outcome)
    (hsummary : summary = .noFiles ∨ summary = .noIssues) :
    (do
      postSummary r.host r.settings commit summary
      pure outcome : Run Outcome).Obeys r.Concludes := by
  refine ((obeys_postSummary_last r.host r.settings commit summary).bind fun _ =>
    Run.obeys_pure outcome).imp ?_
  rintro t res t' (⟨e, rfl | ⟨sha, q, hrequest, rfl, hfails⟩, rfl⟩ |
    ⟨_, t₁, rfl | ⟨sha, q, hrequest, rfl, -⟩, rfl, rfl⟩)
  · exact .discreetly (.refl _) (by simp)
  · have hsends : t.Sends ([] ++ [q]) (t.send q) := .single t q
    refine .summarising hsends (by simp) hsummary hrequest fun e' he' => ?_
    exact hfails e' (congrArg _ (Except.error.inj he'))
  · exact .discreetly (.refl _) (by simp)
  · have hsends : t.Sends ([] ++ [q]) (t.send q) := .single t q
    exact .summarising hsends (by simp) hsummary hrequest fun e he => nomatch he

theorem obeys_concludes_reviewFiles (hhost : r.host.remote = .codeHost)
    (hmodel : r.model.client.remote = .model) (pull : Int) (commit : Option String)
    (files : List ChangedFile) : (r.reviewFiles pull commit files).Obeys r.Concludes := by
  unfold reviewFiles
  refine obeys_concludes_bind Run.isDiscreet_checkCancelled fun _ => ?_
  refine obeys_concludes_bind (Run.obeys_timed _ _ (r.linter.isDiscreet_run _)) fun results => ?_
  refine obeys_concludes_bind (isDiscreet_reviewResults hhost hmodel pull commit files results)
    fun comments => ?_
  split
  · exact obeys_concludes_summary commit .noIssuesFound (.inr rfl)
  · refine ((Run.obeys_pure (Outcome.issuesFound comments)).after
      (Run.isQuiet_noteSuccess _ _)).imp ?_
    rintro t res t' ⟨rfl, rfl⟩
    exact .discreetly (.refl _) (by simp)

/-- A review publishes its summary last. -/
theorem obeys_concludes (hhost : r.host.remote = .codeHost)
    (hmodel : r.model.client.remote = .model) (event : Event) :
    (r.run event).Obeys r.Concludes := by
  unfold run
  split
  · refine (Run.obeys_throw Failure.notPullRequest).imp ?_
    rintro t res t' ⟨rfl, rfl⟩
    exact .discreetly (.refl _) (by simp)
  · rename_i pull _
    refine Run.Obeys.after ?_ (Run.isQuiet_note _ _ _)
    refine obeys_concludes_bind (Run.obeys_timed _ _ (isDiscreet_fetchChangedFiles hhost
      r.settings.repository pull.number r.settings.extensions)) fun files => ?_
    split
    · exact (obeys_concludes_summary event.headSha .noFilesChanged (.inl rfl)).after
        (Run.isQuiet_note _ _ _)
    · exact obeys_concludes_reviewFiles hhost hmodel pull.number event.headSha files

end Reviewer

/-! ## How many check runs are published -/

namespace Exchange

/-- Nothing is published by requests that ask for no check run. -/
theorem countP_isPublished_eq_zero {t : Traffic} {qs : List Request}
    (h : ∀ q ∈ qs, q.purpose.published? = none) : (t.exchanges qs).countP isPublished = 0 := by
  refine List.countP_eq_zero.2 fun e he => ?_
  have hmem : e.request ∈ qs := by
    rw [← t.requests_exchanges qs]
    exact List.mem_map_of_mem he
  simp [isPublished, h e.request hmem]

/-- One more request publishes one check run at most. -/
theorem countP_isPublished_append_le {t : Traffic} {qs : List Request}
    (h : ∀ q ∈ qs, q.purpose.published? = none) (q : Request) :
    (t.exchanges (qs ++ [q])).countP isPublished ≤ 1 := by
  rw [Traffic.exchanges_append, List.countP_append, countP_isPublished_eq_zero h,
    Nat.zero_add]
  exact List.countP_le_length

/-- A call that publishes a summary and fails has an answer that is not read, if that tells of
success. -/
theorem isUnread_of_isPublished {host : Client} {s : Settings} {sha : String} {summary : Summary}
    {e : Exchange} {failure : Failure}
    (hrequest : (Reviewer.summaryCall host s sha summary).request = .ok e.request)
    (hfails : (Reviewer.summaryCall host s sha summary).resultOf e.request e.reply =
      .error failure) (h : e.isPublished = true) : e.IsUnread failure := by
  obtain ⟨-, hsuccess⟩ := Bool.and_eq_true_iff.1 h
  cases hresult : e.reply.result with
  | error fault => simp [hresult] at hsuccess
  | ok response =>
    simp only [hresult] at hsuccess
    refine ⟨response, hresult, hsuccess, ?_⟩
    obtain ⟨path, -, hconclude⟩ := CodeHost.conclude_call (r := response) hrequest
    rw [CodeHost.accept_of_not_error (Response.isError_of_isSuccess hsuccess)] at hconclude
    simp only [Call.resultOf, hresult] at hfails
    split at hfails
    · left
      have hbody : CodeHost.bodyOf response = .error failure := hconclude.symm.trans hfails
      rw [CodeHost.bodyOf] at hbody
      cases hjson : response.json with
      | ok v =>
        rw [hjson] at hbody
        cases hbody
      | error fault =>
        rw [hjson] at hbody
        exact ⟨fault, rfl, (Except.error.inj hbody).symm⟩
    · rename_i hkind
      exact .inr ⟨by simpa using hkind, (Except.error.inj hfails).symm⟩

end Exchange

/-- Are at most two check runs published, and two exactly if the first answer is not read? -/
def PublishesAtMostTwice (s : Settings) (es : List Exchange) : Prop :=
  es.countP Exchange.isPublished ≤ 2 ∧
    (es.countP Exchange.isPublished = 2 ↔ PublishesTwice s es)

theorem Exchange.isPublished_of_isUnread {s : Settings} {summary : Summary} {e : Exchange}
    {failure : Failure} (hsummarises : e.Summarises s summary) (h : e.IsUnread failure) :
    e.isPublished = true := by
  obtain ⟨sha, hpurpose⟩ := hsummarises
  obtain ⟨response, hresult, hsuccess, -⟩ := h
  simp [isPublished, hpurpose, hresult, hsuccess, Purpose.published?]

theorem PublishesTwice.two_le {s : Settings} {es : List Exchange} (h : PublishesTwice s es) :
    2 ≤ es.countP Exchange.isPublished := by
  obtain ⟨front, first, second, summary, failure, rfl, -, hfirst, hunread, -, hsecond⟩ := h
  have hboth : [first, second].countP Exchange.isPublished = 2 := by
    simp [Exchange.isPublished_of_isUnread hfirst hunread, hsecond]
  rw [List.countP_append, hboth]
  exact Nat.le_add_left 2 _

namespace PublishesAtMostTwice

variable {s : Settings} {es front : List Exchange}

theorem of_le_one (h : es.countP Exchange.isPublished ≤ 1) : PublishesAtMostTwice s es := by
  refine ⟨Nat.le_succ_of_le h, iff_of_false (by omega) fun htwice => ?_⟩
  have hle := htwice.two_le
  omega

/-- What is published before a failure is told of has an answer that is not read. -/
theorem of_pair {first second : Exchange} {summary : Summary} {failure : Failure}
    (hfront : front.countP Exchange.isPublished = 0)
    (hsummary : summary = .noFiles ∨ summary = .noIssues) (hfirst : first.Summarises s summary)
    (hunread : first.isPublished = true → first.IsUnread failure)
    (hsecond : second.Summarises s (.failed failure.message)) :
    PublishesAtMostTwice s (front ++ [first, second]) := by
  have hcount : (front ++ [first, second]).countP Exchange.isPublished =
      [first, second].countP Exchange.isPublished := by
    rw [List.countP_append, hfront, Nat.zero_add]
  refine ⟨by rw [hcount]; exact List.countP_le_length, fun h => ?_, fun h => ?_⟩
  · rw [hcount] at h
    have hall : ∀ e ∈ [first, second], e.isPublished = true := List.countP_eq_length.1 h
    exact ⟨front, first, second, summary, failure, rfl, hsummary, hfirst,
      hunread (hall first (by simp)), hsecond, hall second (by simp)⟩
  · have hle := h.two_le
    have hlength : [first, second].countP Exchange.isPublished ≤ 2 := List.countP_le_length
    omega

end PublishesAtMostTwice

namespace Action

variable {r : Reviewer}

/-- Telling of a failure sends one request at most. -/
theorem obeys_reportFailure_last (hhost : r.host.remote = .codeHost) (event : Event)
    (failure : Failure) :
    (reportFailure r event failure).Obeys fun t res t' => res = .ok () ∧ (t' = t ∨
      ∃ q sha, t' = t.send q ∧ q.purpose =
        .checkRun (Reviewer.summaryRun r.settings sha (.failed failure.message)).published) := by
  unfold reportFailure
  have hposts : (Reviewer.postSummary r.host r.settings event.headSha
      (.failed failure.message)).Obeys fun t _ t' => t' = t ∨ ∃ q sha, t' = t.send q ∧ q.purpose =
        .checkRun (Reviewer.summaryRun r.settings sha (.failed failure.message)).published := by
    refine (Reviewer.obeys_postSummary_last _ _ _ _).imp ?_
    rintro t res t' (h | ⟨sha, q, hrequest, h, -⟩)
    · exact .inl h
    · exact .inr ⟨q, sha, h, (purpose_checkRun hhost hrequest).2⟩
  refine ((hposts.tryCatch fun second => Run.isQuiet_noteFailure
    (Reviewer.repositoryContext r.settings) "Failed to report the failed run"
    (some second.message)).after (Run.isQuiet_noteFailure _ _ _)).imp ?_
  rintro t res t' (⟨_, hsent, rfl⟩ | ⟨_, _, hsent, rfl, rfl⟩)
  · exact ⟨rfl, hsent⟩
  · exact ⟨rfl, hsent⟩

end Action

namespace Reviewer.Concludes

variable {r : Reviewer} {t t' : Traffic} {res : Except Failure Outcome}

/-- A review publishes one check run at most. -/
theorem publishes (h : r.Concludes t res t') :
    ∃ qs, t.Sends qs t' ∧ PublishesAtMostTwice r.settings (t.exchanges qs) := by
  cases h with
  | discreetly hsends hdiscreet =>
    exact ⟨_, hsends, .of_le_one (by simp [Exchange.countP_isPublished_eq_zero hdiscreet])⟩
  | summarising hsends hdiscreet =>
    exact ⟨_, hsends, .of_le_one (Exchange.countP_isPublished_append_le hdiscreet _)⟩

/-- One request that tells of its failure makes two. -/
theorem publishes_failed {failure : Failure} {q : Request} {sha : String}
    (hhost : r.host.remote = .codeHost) (h : r.Concludes t (.error failure) t')
    (hq : q.purpose = .checkRun (summaryRun r.settings sha (.failed failure.message)).published) :
    ∃ qs, t.Sends qs (t'.send q) ∧ PublishesAtMostTwice r.settings (t.exchanges qs) := by
  cases h with
  | discreetly hsends hdiscreet =>
    exact ⟨_, hsends.trans (.single _ q),
      .of_le_one (Exchange.countP_isPublished_append_le hdiscreet q)⟩
  | @summarising qs first sha' summary hsends hdiscreet hsummary hrequest hfails =>
    refine ⟨_, hsends.trans (.single _ q), ?_⟩
    rw [List.append_assoc, Traffic.exchanges_append]
    refine .of_pair (Exchange.countP_isPublished_eq_zero hdiscreet) hsummary
      ⟨sha', (purpose_checkRun hhost hrequest).2⟩ (fun hpublished => ?_) ⟨sha, hq⟩
    exact Exchange.isUnread_of_isPublished hrequest (hfails failure rfl) hpublished

end Reviewer.Concludes

namespace Action

/-- A review and what tells of its failure publish at most two check runs. -/
theorem obeys_review_publishes {r : Reviewer} (hhost : r.host.remote = .codeHost)
    (hmodel : r.model.client.remote = .model) (event : Event) :
    (review r event).Obeys fun t _ t' => ∃ qs, t.Sends qs t' ∧
      PublishesAtMostTwice r.settings (t.exchanges qs) := by
  unfold review
  refine (((Reviewer.obeys_concludes hhost hmodel event).map some).tryCatch fun failure =>
    (obeys_reportFailure_last hhost event failure).bind fun _ => Run.obeys_pure none).imp ?_
  rintro t res t' (⟨_, ⟨ended, hconcludes, -⟩, -⟩ |
    ⟨failure, t₁, ⟨ended | ended, hconcludes, hended⟩, hreports⟩)
  · exact hconcludes.publishes
  · obtain rfl : failure = ended := Except.error.inj hended
    rcases hreports with ⟨_, ⟨hok, -⟩, -⟩ | ⟨_, _, ⟨-, hsent⟩, -, rfl⟩
    · cases hok
    · rcases hsent with rfl | ⟨q, sha, rfl, hq⟩
      · exact hconcludes.publishes
      · exact hconcludes.publishes_failed hhost hq
  · cases hended

theorem obeys_readEvent (s : Settings) : (readEvent s).Obeys fun t _ t' => t' = t := by
  intro w
  rw [readEvent, Run.outcome_bind_ok (Run.outcome_get w), Run.outcome_ofExcept]

/-- A run publishes at most two check runs, if it comes to a review at all. -/
theorem obeys_runReview_publishes (s : Settings) :
    (runReview s).Obeys fun t _ t' => ∃ qs, t.Sends qs t' ∧
      PublishesAtMostTwice s (t.exchanges qs) := by
  have hidle : ∀ t : Traffic, ∃ qs, t.Sends qs t ∧ PublishesAtMostTwice s (t.exchanges qs) :=
    fun t => ⟨[], .refl t, .of_le_one (Nat.zero_le 1)⟩
  have hreviews : ∀ event, (Run.ofExcept id (Reviewer.ofSettings s) >>= fun r =>
      review r event).Obeys fun t _ t' => ∃ qs, t.Sends qs t' ∧
        PublishesAtMostTwice s (t.exchanges qs) := by
    intro event
    cases hreviewer : Reviewer.ofSettings s with
    | error e => exact fun w => hidle w.traffic
    | ok r =>
      obtain ⟨rfl, hhost, hmodel⟩ := Reviewer.parts_of_settings hreviewer
      rw [Run.ofExcept_ok_bind]
      exact obeys_review_publishes hhost hmodel event
  have hrest : ∀ event : Event, (if event.pullRequest.isNone then do
        Run.note [] .info "This action only runs on pull requests."
        return none
      else Run.ofExcept id (Reviewer.ofSettings s) >>= fun r => review r event :
      Run (Option Outcome)).Obeys fun t _ t' => ∃ qs, t.Sends qs t' ∧
        PublishesAtMostTwice s (t.exchanges qs) := by
    intro event
    split
    · exact fun w => hidle w.traffic
    · exact hreviews event
  refine ((obeys_readEvent s).bind hrest).imp ?_
  rintro t res t' (⟨e, rfl, -⟩ | ⟨event, _, rfl, hpublishes⟩)
  · exact hidle t'
  · exact hpublishes

/-- A run publishes at most two check runs, and two exactly if the host accepts the summary of the
review in an answer that is not read, and then the summary of that failure. -/
theorem runReview_publishes (s : Settings) (w : World) :
    ∃ qs, ((runReview s).outcome w).2.sent = w.sent ++ qs ∧
      ((w.traffic.exchanges qs).countP Exchange.isPublished ≤ 2 ∧
        ((w.traffic.exchanges qs).countP Exchange.isPublished = 2 ↔
          PublishesTwice s (w.traffic.exchanges qs))) := by
  obtain ⟨qs, hsends, htwice⟩ := obeys_runReview_publishes s w
  exact ⟨qs, hsends.sent_eq, htwice⟩

/-- A world in which no file has changed and the code host accepts the summary that tells so in an
answer that is not JSON. -/
def unreadWorld : World :=
  { brokenWorld "s" with
    hostReplies := [{ result := .ok (Response.success "[]") },
      { result := .ok { Response.success "created" with status := 201 } }] }

/-- Two summaries of one run are published there, of which the second tells of a failure. -/
theorem runReview_unreadWorld :
    ∃ qs, ((runReview Reviewer.sampleSettings).outcome unreadWorld).2.sent =
        unreadWorld.sent ++ qs ∧
      qs.filterMap (fun q => q.purpose.published?.map (·.summary)) =
        [Summary.noFiles.summary, (Summary.failed "").summary] ∧
      (unreadWorld.traffic.exchanges qs).countP Exchange.isPublished = 2 := by
  have hunsent : unreadWorld.sent = [] := rfl
  have hsummaries : ((runReview Reviewer.sampleSettings).outcome unreadWorld).2.sent.filterMap
      (fun q => q.purpose.published?.map (·.summary)) =
        [Summary.noFiles.summary, (Summary.failed "").summary] := by decide +kernel
  have hpublished : (unreadWorld.traffic.exchanges
      ((runReview Reviewer.sampleSettings).outcome unreadWorld).2.sent).countP
        Exchange.isPublished = 2 := by decide +kernel
  refine ⟨_, ?_, hsummaries, hpublished⟩
  rw [hunsent, List.nil_append]

end Action

end InlineReview
