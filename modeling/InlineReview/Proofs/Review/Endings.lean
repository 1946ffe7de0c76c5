import InlineReview.Proofs.Review.Comments
import InlineReview.Review.Action

/-!
# How an action ends

An action that has read its event and found a pull request does not fail.  Its outcome tells which
check runs it has published: one for a review without files or without issues, none for a review
with comments, and one with the failure for a review that failed, unless its texts cannot be
written.

* `Action.outcome_runReview` — an action is the review of its event.
* `Action.obeys_reportFailure` — what is sent after a failure.
* `Action.runReview_ends` — what each outcome tells of what was sent.
* `Action.runReview_brokenWorld_silent` — a failure that is not told of.
-/

namespace InlineReview

open Text

/-! ## Reviewers from settings -/

theorem Client.remote_of_create {remote : Remote} {address : String}
    {headers : List (String × String)} {c : Client} (h : create remote address headers = .ok c) :
    c.remote = remote := by
  unfold create at h
  cases hbase : (Base.read (String.ofList (dropTrailing '/' address.toList))).mapError
      Failure.address with
  | error e =>
    rw [hbase] at h
    cases h
  | ok base =>
    rw [hbase] at h
    cases hheaders : checkHeaders headers with
    | error e =>
      simp only [bind, Except.bind, hheaders] at h
      cases h
    | ok _ =>
      simp only [bind, Except.bind, hheaders] at h
      obtain rfl := Except.ok.inj h
      rfl

/-- A reviewer from settings has clients of its own and the linter of the settings. -/
theorem Reviewer.exists_of_settings {s : Settings} {r : Reviewer} (h : ofSettings s = .ok r) :
    ∃ host model, CodeHost.client s.hostBase s.hostToken CodeHost.defaultUserAgent = .ok host ∧
      Model.create s.modelKey s.modelName s.modelBase (.real s.timeout) = .ok model ∧
      r = {
        settings := s
        host
        model
        linter := {
          program := s.linter
          config := s.linterConfig
          directory := s.linterPlace
          workspace := s.workspace
          report := s.reportPlace } } := by
  unfold ofSettings at h
  cases hhost : CodeHost.client s.hostBase s.hostToken CodeHost.defaultUserAgent with
  | error e =>
    rw [hhost] at h
    cases h
  | ok host =>
    rw [hhost] at h
    cases hmodel : Model.create s.modelKey s.modelName s.modelBase (.real s.timeout) with
    | error e =>
      simp only [bind, Except.bind, hmodel] at h
      cases h
    | ok model =>
      simp only [bind, Except.bind, hmodel] at h
      exact ⟨host, model, rfl, rfl, (Except.ok.inj h).symm⟩

theorem Reviewer.parts_of_settings {s : Settings} {r : Reviewer} (h : ofSettings s = .ok r) :
    r.settings = s ∧ r.host.remote = .codeHost ∧ r.model.client.remote = .model := by
  obtain ⟨host, model, hhost, hmodel, rfl⟩ := exists_of_settings h
  refine ⟨rfl, Client.remote_of_create hhost, ?_⟩
  unfold Model.create at hmodel
  cases hclient : Client.create .model s.modelBase
      [("x-goog-api-key", s.modelKey), Client.jsonHeader] with
  | error e =>
    simp only [bind, Except.bind, hclient] at hmodel
    cases hmodel
  | ok client =>
    simp only [bind, Except.bind, hclient] at hmodel
    obtain rfl := Except.ok.inj hmodel
    exact Client.remote_of_create hclient

namespace Action

/-! ## From the action to the review -/

/-- An action that has read an event with a pull request reviews it. -/
theorem outcome_runReview {s : Settings} {r : Reviewer} {event : Event} {w : World}
    (hreviewer : Reviewer.ofSettings s = .ok r)
    (hevent : Event.load w.files s.eventPath = .ok event)
    (hpull : event.pullRequest.isSome = true) :
    (runReview s).outcome w = (review r event).outcome w := by
  have hread : (readEvent s).outcome w = (.ok event, w) := by
    rw [readEvent, Run.outcome_bind_ok (Run.outcome_get w), Run.outcome_ofExcept, hevent]
    rfl
  have hclients : (Run.ofExcept id (Reviewer.ofSettings s)).outcome w = (.ok r, w) := by
    rw [Run.outcome_ofExcept, hreviewer]
    rfl
  have hsome : event.pullRequest.isNone = false := by
    cases h : event.pullRequest with
    | none => simp [h] at hpull
    | some pull => rfl
  rw [runReview, Run.outcome_bind_ok hread, hsome]
  exact Run.outcome_bind_ok hclients

/-- A review that ends with an outcome has that outcome. -/
theorem outcome_review_ok {r : Reviewer} {event : Event} {outcome : Outcome} {w w' : World}
    (h : (r.run event).outcome w = (.ok outcome, w')) :
    (review r event).outcome w = (.ok (some outcome), w') := by
  rw [review, Run.outcome_tryCatch, Run.outcome_map, h]
  rfl

/-- A failure of a review is reported. -/
theorem outcome_review_error {r : Reviewer} {event : Event} {failure : Failure} {w w' : World}
    (h : (r.run event).outcome w = (.error failure, w')) :
    (review r event).outcome w =
      (reportFailure r event failure >>= fun _ => pure none).outcome w' := by
  rw [review, Run.outcome_tryCatch, Run.outcome_map, h]
  rfl

/-- Reporting a failure never fails, and sends the summary of the failure if that can be put
together. -/
theorem obeys_reportFailure {r : Reviewer} (hhost : r.host.remote = .codeHost) (event : Event)
    (failure : Failure) :
    (reportFailure r event failure).Obeys fun t res t' => res = .ok () ∧
      ∃ qs, t' = t.sendAll qs ∧ qs.map Request.purpose =
        Reviewer.summaryPurposes r.host r.settings event.headSha (.failed failure.message) := by
  unfold reportFailure
  have hposts := (Reviewer.obeys_postSummary hhost r.settings event.headSha
    (.failed failure.message)).tryCatch fun second => Run.isQuiet_noteFailure
      (Reviewer.repositoryContext r.settings) "Failed to report the failed run"
      (some second.message)
  refine (hposts.after (Run.isQuiet_noteFailure _ _ _)).imp ?_
  rintro t res t' (⟨_, ⟨hsent, -⟩, rfl⟩ | ⟨_, _, ⟨hsent, -⟩, rfl, rfl⟩)
  · exact ⟨rfl, hsent⟩
  · exact ⟨rfl, hsent⟩

/-! ## What an outcome tells of -/

/-- The purposes of the requests that tell of a failure: none if a text of the check run is not
writable. -/
def reportPurposes (s : Settings) (sha : String) (failure : Failure) : List Purpose :=
  if IsWritable s.checkName.toList ∧ IsWritable sha.toList ∧ IsWritable failure.message.toList then
    [.checkRun (Reviewer.summaryRun s sha (.failed failure.message)).published]
  else []

/-- What an action has sent that ended with an outcome, or without one after a failure of its
review. -/
def Ends (s : Settings) (sha : String) (failed : Failure → Prop) (idle : Prop)
    (sent : List Purpose) : Option Outcome → Prop
  | some .noFilesChanged =>
    idle ∧ ∃ pages, (∀ p ∈ pages, p = .listing) ∧
      sent = pages ++ [.checkRun (Reviewer.summaryRun s sha .noFiles).published]
  | some (.issuesFound comments) => comments ≠ [] ∧ sent.filterMap Purpose.published? = []
  | some .noIssuesFound =>
    sent.filterMap Purpose.placed? = [] ∧
      sent.filterMap Purpose.published? = [(Reviewer.summaryRun s sha .noIssues).published]
  | none => ∃ failure before closing, failed failure ∧
      sent = before ++ (closing ++ reportPurposes s sha failure) ∧
      before.filterMap Purpose.published? = [] ∧
      (closing = [] ∨ ∃ summary, (summary = .noFiles ∨ summary = .noIssues) ∧
        closing = [.checkRun (Reviewer.summaryRun s sha summary).published])

section Ends

variable {r : Reviewer} {commit : Option String} {sha path : String} {summary : Summary}
  {bare : Request}

theorem summaryPurposes_cases (h : sha ≠ "") :
    Reviewer.summaryPurposes r.host r.settings (some sha) summary = [] ∨
      Reviewer.summaryPurposes r.host r.settings (some sha) summary =
        [.checkRun (Reviewer.summaryRun r.settings sha summary).published] := by
  rw [Reviewer.summaryPurposes_some h]
  split
  · exact .inr rfl
  · exact .inl rfl

/-- The summary of a failure is sent if its texts are writable. -/
theorem summaryPurposes_failed (failure : Failure) (hne : sha ≠ "")
    (hpath : CodeHost.resourcePath r.settings.repository "check-runs" = .ok path)
    (hbare : r.host.request .post path none none = .ok bare) :
    Reviewer.summaryPurposes r.host r.settings (some sha) (.failed failure.message) =
      reportPurposes r.settings sha failure := by
  have hfixed : IsWritable (Summary.failed failure.message).title.toList ∧
      IsWritable (Summary.failed failure.message).summary.toList :=
    ⟨(by decide : IsWritable Settings.defaultCheckName.toList),
      (by decide : IsWritable "Action failed ❌".toList)⟩
  have hok : (Reviewer.summaryCall r.host r.settings sha (.failed failure.message)).request.isOk =
      true ↔ _ := Reviewer.isOk_summaryCall_iff hpath hbare
  rw [Reviewer.summaryPurposes_some hne, reportPurposes]
  refine if_congr (hok.trans ?_) rfl rfl
  simp only [hfixed.1, hfixed.2, true_and]
  rfl

/-- A review that ends with an outcome has sent what that tells of. -/
theorem ends_of_completes {pull : Int} {t t' : Traffic} {steps : List Step}
    {pages body closing : List Purpose} {outcome : Outcome} {failed : Failure → Prop}
    (hne : sha ≠ "") (hpages : ∀ p ∈ pages, p = .listing)
    (h : r.Completes pull (some sha) t steps body closing outcome t') :
    Ends r.settings sha failed (t'.commands = t.commands) (pages ++ (body ++ closing))
      (some outcome) := by
  have hlisted : pages.filterMap Purpose.published? = [] ∧
      pages.filterMap Purpose.placed? = [] := by
    constructor <;> refine List.filterMap_eq_nil_iff.2 fun p hp => ?_ <;> rw [hpages p hp] <;> rfl
  have hclosing : ∀ summary, outcome.summary? = some summary →
      closing = [.checkRun (Reviewer.summaryRun r.settings sha summary).published] := by
    intro summary hsummary
    rw [h.closing_eq, hsummary, Option.elim_some, Reviewer.summaryPurposes_some hne,
      if_pos (h.closed summary hsummary sha rfl hne)]
  have hpublished : body.filterMap Purpose.published? = [] := by
    rw [h.body_eq]
    exact r.published_of_steps pull (some sha) steps
  cases outcome with
  | noFilesChanged =>
    obtain ⟨hsteps, hcommands⟩ := h.idle rfl
    refine ⟨hcommands, pages, hpages, ?_⟩
    rw [h.body_eq, hsteps, hclosing .noFiles rfl]
    rfl
  | issuesFound comments =>
    have hnone : closing = [] := h.closing_eq
    refine ⟨h.found comments rfl, ?_⟩
    rw [List.filterMap_append, List.filterMap_append, hlisted.1, hpublished, hnone]
    rfl
  | noIssuesFound =>
    have hplaced : body.filterMap Purpose.placed? = [] := by
      have hcomments : steps.filterMap Step.comment = [] := h.comments_eq.symm
      rw [h.body_eq, r.placed_of_steps, hcomments]
      rfl
    refine ⟨?_, ?_⟩
    · rw [List.filterMap_append, List.filterMap_append, hlisted.2, hplaced,
        hclosing .noIssues rfl]
      rfl
    · rw [List.filterMap_append, List.filterMap_append, hlisted.1, hpublished,
        hclosing .noIssues rfl]
      rfl

end Ends

theorem published_of_isRemark {p : Purpose} (h : p.IsRemark) : p.published? = none := by
  cases p <;> first | rfl | exact h.elim

/-- An action whose settings give a reviewer that can publish check runs, and whose event has a pull
request with a commit, ends without failing, and has sent what its outcome tells of. -/
theorem runReview_ends {s : Settings} {r : Reviewer} {event : Event} {sha path : String}
    {bare : Request} (w : World) (hreviewer : Reviewer.ofSettings s = .ok r)
    (hpath : CodeHost.resourcePath s.repository "check-runs" = .ok path)
    (hbare : r.host.request .post path none none = .ok bare)
    (hevent : Event.load w.files s.eventPath = .ok event)
    (hpull : event.pullRequest.isSome = true) (hsha : event.headSha = some sha) (hne : sha ≠ "") :
    ∃ ended w' qs, (runReview s).outcome w = (.ok ended, w') ∧ w'.sent = w.sent ++ qs ∧
      Ends s sha (fun failure => ((r.run event).outcome w).1 = .error failure)
        (w'.commands = w.commands) (qs.map Request.purpose) ended := by
  obtain ⟨rfl, hhost, hmodel⟩ := Reviewer.parts_of_settings hreviewer
  obtain ⟨pull, hpull'⟩ := Option.isSome_iff_exists.1 hpull
  rw [outcome_runReview hreviewer hevent hpull]
  obtain ⟨pages, body, closing, ⟨qs, hsent, hpurposes⟩, hpages, hbody, hclosing, hends, -⟩ :=
    Reviewer.obeys_run hhost hmodel hpull' w
  rcases hrun : (r.run event).outcome w with ⟨failure | outcome, w₁⟩
  · rw [hrun] at hsent
    obtain ⟨hres, os, htraffic, hreport⟩ := obeys_reportFailure hhost event failure w₁
    rcases hreported : (reportFailure r event failure).outcome w₁ with ⟨res, w₂⟩
    rw [hreported] at hres htraffic
    obtain rfl : res = .ok () := hres
    refine ⟨none, w₂, qs ++ os, ?_, ?_, failure, pages ++ body, closing, rfl, ?_, ?_, ?_⟩
    · rw [outcome_review_error hrun, Run.outcome_bind_ok hreported]
      rfl
    · have hw₂ : w₂.sent = w₁.sent ++ os := by
        have h := congrArg Traffic.sent htraffic
        rwa [Traffic.sent_sendAll] at h
      rw [hw₂, ← List.append_assoc, ← show w₁.sent = w.sent ++ qs from hsent]
    · rw [hsha] at hreport
      rw [List.map_append, hpurposes, hreport, summaryPurposes_failed failure hne hpath hbare]
      simp only [List.append_assoc]
    · refine List.filterMap_eq_nil_iff.2 fun p hp => ?_
      rcases List.mem_append.1 hp with hp | hp
      · rw [hpages p hp]
        rfl
      · exact published_of_isRemark (hbody p hp)
    · rcases hclosing with rfl | ⟨summary, hsummary, rfl⟩
      · exact .inl rfl
      · rw [hsha]
        exact (summaryPurposes_cases hne).imp_right fun h => ⟨summary, hsummary, h⟩
  · rw [hrun] at hsent hends
    obtain ⟨steps, -, hcompletes⟩ := hends outcome rfl
    rw [hsha] at hcompletes
    refine ⟨some outcome, w₁, qs, outcome_review_ok hrun, hsent, ?_⟩
    rw [hpurposes]
    exact ends_of_completes hne hpages hcompletes

/-- A world in which the event names a commit and the code host cannot be reached at first. -/
def brokenWorld (sha : String) : World where
  files := [({ twoSlashes := false, components := ["e"] }, .content (Utf8.encode
    ("\x7b\"pull_request\":\x7b\"number\":1,\"head\":\x7b\"sha\":\"" ++ sha ++
      "\"\x7d\x7d\x7d").toList))]
  hostReplies := [{ result := .error { kind := "ConnectError", message := "" } }]

theorem reviewer_sample :
    ∃ r path bare, Reviewer.ofSettings Reviewer.sampleSettings = .ok r ∧
      CodeHost.resourcePath Reviewer.sampleSettings.repository "check-runs" = .ok path ∧
      r.host.request .post path none none = .ok bare := by
  have hok : (Reviewer.ofSettings Reviewer.sampleSettings >>= fun r =>
      CodeHost.resourcePath Reviewer.sampleSettings.repository "check-runs" >>= fun path =>
        r.host.request .post path none none).isOk = true := by
    decide +kernel
  obtain ⟨r, hreviewer, hok⟩ := Run.exists_of_isOk_bind hok
  obtain ⟨path, hpath, hok⟩ := Run.exists_of_isOk_bind hok
  obtain ⟨bare, hbare⟩ := Run.exists_of_isOk hok
  exact ⟨r, path, bare, hreviewer, hpath, hbare⟩

theorem event_brokenWorld (written sha : String)
    (h : (Event.load (brokenWorld written).files Reviewer.sampleSettings.eventPath).toOption.map
      (fun e => (e.pullRequest.isSome, e.headSha)) = some (true, some sha)) :
    ∃ event, Event.load (brokenWorld written).files Reviewer.sampleSettings.eventPath =
        .ok event ∧ event.pullRequest.isSome = true ∧ event.headSha = some sha := by
  cases hload : Event.load (brokenWorld written).files Reviewer.sampleSettings.eventPath with
  | error fault =>
    rw [hload] at h
    cases h
  | ok event =>
    rw [hload] at h
    obtain ⟨hpull, hsha⟩ := Prod.mk.inj (Option.some.inj h)
    exact ⟨event, rfl, hpull, hsha⟩

/-- The failure to reach the code host is reported. -/
theorem runReview_brokenWorld :
    ∃ r path bare event, Reviewer.ofSettings Reviewer.sampleSettings = .ok r ∧
      CodeHost.resourcePath Reviewer.sampleSettings.repository "check-runs" = .ok path ∧
      r.host.request .post path none none = .ok bare ∧
      Event.load (brokenWorld "s").files Reviewer.sampleSettings.eventPath = .ok event ∧
      event.pullRequest.isSome = true ∧ event.headSha = some "s" ∧ "s" ≠ "" ∧
      ∃ ended w' qs,
        (runReview Reviewer.sampleSettings).outcome (brokenWorld "s") = (.ok ended, w') ∧
        w'.sent = (brokenWorld "s").sent ++ qs ∧
        Ends Reviewer.sampleSettings "s"
          (fun failure => ((r.run event).outcome (brokenWorld "s")).1 = .error failure)
          (w'.commands = (brokenWorld "s").commands) (qs.map Request.purpose) ended := by
  obtain ⟨r, path, bare, hreviewer, hpath, hbare⟩ := reviewer_sample
  obtain ⟨event, hevent, hpull, hsha⟩ := event_brokenWorld "s" "s"
    (by decide +kernel)
  exact ⟨r, path, bare, event, hreviewer, hpath, hbare, hevent, hpull, hsha, by decide,
    runReview_ends (brokenWorld "s") hreviewer hpath hbare hevent hpull hsha (by decide)⟩

/-- It is not reported on a commit whose name is half of a pair. -/
theorem runReview_brokenWorld_silent :
    ∃ r path bare event sha, Reviewer.ofSettings Reviewer.sampleSettings = .ok r ∧
      CodeHost.resourcePath Reviewer.sampleSettings.repository "check-runs" = .ok path ∧
      r.host.request .post path none none = .ok bare ∧
      Event.load (brokenWorld "\\ud800").files Reviewer.sampleSettings.eventPath = .ok event ∧
      event.pullRequest.isSome = true ∧ event.headSha = some sha ∧ sha ≠ "" ∧
      ∃ w', (runReview Reviewer.sampleSettings).outcome (brokenWorld "\\ud800") =
          (.ok none, w') ∧ w'.sent.map Request.purpose = [.listing] := by
  obtain ⟨r, path, bare, hreviewer, hpath, hbare⟩ := reviewer_sample
  obtain ⟨event, hevent, hpull, hsha⟩ := event_brokenWorld "\\ud800"
    (String.singleton (ofCodePoint 0xD800)) (by decide +kernel)
  have hended : ((runReview Reviewer.sampleSettings).outcome (brokenWorld "\\ud800")).1.toOption =
      some none := by decide +kernel
  have hsent : ((runReview Reviewer.sampleSettings).outcome
      (brokenWorld "\\ud800")).2.sent.map Request.purpose = [.listing] := by decide +kernel
  generalize (runReview Reviewer.sampleSettings).outcome (brokenWorld "\\ud800") = ended
    at hended hsent ⊢
  obtain ⟨res, w'⟩ := ended
  refine ⟨r, path, bare, event, _, hreviewer, hpath, hbare, hevent, hpull, hsha, by decide, w', ?_,
    hsent⟩
  cases res with
  | error e => cases hended
  | ok ended => rw [Option.some.inj hended]

end Action

end InlineReview
