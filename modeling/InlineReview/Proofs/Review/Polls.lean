import InlineReview.Proofs.Review.Deeds
import InlineReview.Proofs.Review.Runs

/-!
# Where a review looks at its token

A review with changed files looks at its token before it starts the linter and before each finding
in a changed file, besides before each question and each comment.  A review without changed files
never does.

* `Reviewer.does_reviewFiles`, `Reviewer.does_run` — the deeds of a review, in their order.
-/

namespace InlineReview

namespace Deed

/-- Is a deed one of a review? -/
def IsOfReview (l : Linter) (d : Deed) : Prop :=
  d.IsListing ∨ d.IsReviewing ∨ d.IsLinting l ∨ d.IsPublishing

section Kinds

variable {d : Deed}

theorem IsWrite.not_isPublishing (h : d.IsWrite) : ¬ d.IsPublishing := by
  rintro ⟨q, run, rfl, -⟩
  exact h

theorem IsListing.not_isPublishing (h : d.IsListing) : ¬ d.IsPublishing := by
  obtain ⟨q, rfl, -, hlisting⟩ := h
  rintro ⟨p, run, hp, -, hpurpose⟩
  obtain rfl : q = p := Deed.perform.inj hp
  rw [hlisting] at hpurpose
  cases hpurpose

theorem IsReviewing.not_isPublishing (h : d.IsReviewing) : ¬ d.IsPublishing := by
  rintro ⟨q, run, rfl, -⟩
  rcases h with h | ⟨timeout, p, h, -⟩ <;> cases h

theorem IsLinting.not_isPublishing {l : Linter} (h : d.IsLinting l) : ¬ d.IsPublishing := by
  rintro ⟨q, run, rfl, -⟩
  rcases h with h | ⟨arguments, h⟩ <;> cases h

/-- What is done before a summary is one of the deeds of a review, and publishes nothing. -/
theorem of_unpublished {l : Linter} (h : d.IsWrite ∨ d.IsReviewing ∨ d.IsLinting l) :
    (d.IsWrite ∨ d.IsOfReview l) ∧ ¬ d.IsPublishing := by
  rcases h with h | h | h
  · exact ⟨.inl h, h.not_isPublishing⟩
  · exact ⟨.inr (.inr (.inl h)), h.not_isPublishing⟩
  · exact ⟨.inr (.inr (.inr (.inl h))), h.not_isPublishing⟩

end Kinds

/-- Deeds of a kind that publishes nothing publish nothing, nor do the entries among them. -/
theorem not_isPublishing_of_forall {K : Deed → Prop} (hK : ∀ d, K d → ¬ d.IsPublishing)
    {ds : List Deed} (h : ∀ d ∈ ds, d.IsWrite ∨ K d) : ∀ d ∈ ds, ¬ d.IsPublishing :=
  fun d hd => (h d hd).elim IsWrite.not_isPublishing (hK d)

end Deed

/-! ## Reviews of changed files -/

namespace Reviewer

variable {r : Reviewer}

/-- How a review goes on once it has the changed files. -/
inductive GoesOn (r : Reviewer) (files : List ChangedFile) (t : Traffic) :
    List Deed → Except Failure Outcome → Prop
  /-- It fails before it has a summary to publish, or it ends without one. -/
  | unsummarised {ds : List Deed} {res : Except Failure Outcome}
      (hpublishes : ∀ d ∈ ds, ¬ d.IsPublishing)
      (hres : ∀ outcome, res = .ok outcome → outcome.summary? = none) : GoesOn r files t ds res
  /-- There is no changed file. -/
  | idle {closing : List Deed} {res : Except Failure Outcome} (hfiles : files = [])
      (hclosing : ∀ d ∈ closing, d.IsWrite ∨ d.IsPublishing)
      (hres : ∀ outcome, res = .ok outcome → outcome = .noFilesChanged) :
      GoesOn r files t closing res
  /-- It has gone through the findings and none has got a comment. -/
  | reviewed {store : FileStore} {results : List LintResult} {lint body closing : List Deed}
      {res : Except Failure Outcome} (hfiles : files ≠ [])
      (hresults : r.linter.resultsOf? (files.map (·.filename)) t.files t.nextLintRun =
        some (store, results))
      (hlint : r.linter.Lints lint)
      (hbody : ∀ d ∈ body, d.IsWrite ∨ d.IsReviewing)
      (hrounds : InRounds (visited r.settings.workspace files results).length body)
      (hclosing : ∀ d ∈ closing, d.IsWrite ∨ d.IsPublishing)
      (hres : ∀ outcome, res = .ok outcome → outcome = .noIssuesFound) :
      GoesOn r files t (.poll :: (lint ++ (body ++ closing))) res

theorem does_summarise (hhost : r.host.remote = .codeHost) (commit : Option String)
    (summary : Summary) (outcome : Outcome) :
    (do
      postSummary r.host r.settings commit summary
      pure outcome : Run Outcome).Does fun w ds res =>
      Heeds (Run.stopReason? res) w ds ∧ (∀ d ∈ ds, d.IsWrite ∨ d.IsPublishing) ∧
        ∀ o, res = .ok o → o = outcome := by
  have houtcome : (pure outcome : Run Outcome).Does fun w ds res =>
      Heeds (Run.stopReason? res) w ds ∧ ds = [] ∧ res = .ok outcome :=
    (Run.does_pure outcome).imp fun w ds res h => ⟨h.1 ▸ trivial, h⟩
  refine (Run.Does.bind_heeds (attends_postSummary hhost r.settings commit summary) fun _ =>
    houtcome).imp ?_
  rintro w ds res ⟨hheeds, ⟨e, hkinds, rfl⟩ | ⟨_, before, after, rfl, hkinds, rfl, rfl⟩⟩
  · exact ⟨hheeds, hkinds, fun o ho => nomatch ho⟩
  · rw [List.append_nil] at hheeds ⊢
    exact ⟨hheeds, hkinds, fun o ho => (Except.ok.inj ho).symm⟩

/-- Closing publishes a summary, or writes and has none. -/
theorem does_closing (hhost : r.host.remote = .codeHost) (commit : Option String)
    (comments : List InlineComment) :
    (r.closing commit comments).Does fun w ds res =>
      Heeds (Run.stopReason? res) w ds ∧ (∀ d ∈ ds, d.IsWrite ∨ d.IsPublishing) ∧
        ((∀ outcome, res = .ok outcome → outcome = .noIssuesFound) ∨
          (∀ d ∈ ds, d.IsWrite) ∧ ∀ outcome, res = .ok outcome → outcome.summary? = none) := by
  unfold closing
  split
  · refine (does_summarise hhost commit .noIssues .noIssuesFound).imp ?_
    rintro w ds res ⟨hheeds, hkinds, hres⟩
    exact ⟨hheeds, hkinds, .inl hres⟩
  · refine ((Run.does_pure (Outcome.issuesFound comments)).noted _ .info _).imp ?_
    rintro w ds res ⟨entries, rest, rfl, rfl, rfl⟩
    have hwrites : ∀ d ∈ [Deed.write entries], d.IsWrite := by simp [Deed.IsWrite]
    refine ⟨.of_forall_isWrite hwrites, fun d hd => .inl (hwrites d hd), .inr ⟨hwrites, ?_⟩⟩
    intro outcome houtcome
    rw [← Except.ok.inj houtcome]
    rfl

/-- The findings are gone through, and then the review is closed, if it has not failed before. -/
theorem does_findings (hhost : r.host.remote = .codeHost)
    (hmodel : r.model.client.remote = .model) (pull : Int) (commit : Option String)
    (files : List ChangedFile) (results : List LintResult) :
    (r.reviewResults pull commit files results >>= r.closing commit).Does fun w ds res =>
      Heeds (Run.stopReason? res) w ds ∧
        ∃ body closing, ds = body ++ closing ∧ (∀ d ∈ body, d.IsWrite ∨ d.IsReviewing) ∧
          (∀ d ∈ closing, d.IsWrite ∨ d.IsPublishing) ∧
          ((InRounds (visited r.settings.workspace files results).length body ∧
              ∀ outcome, res = .ok outcome → outcome = .noIssuesFound) ∨
            (∀ d ∈ closing, d.IsWrite) ∧
              ∀ outcome, res = .ok outcome → outcome.summary? = none) := by
  refine (Run.Does.bind_heeds (goesRound_reviewResults hhost hmodel pull commit files results)
    (does_closing hhost commit)).imp ?_
  rintro w ds res ⟨hheeds, ⟨e, ⟨hkinds, -⟩, rfl⟩ |
    ⟨comments, body, closing, rfl, ⟨hbody, hrounds⟩, hclosing, hends⟩⟩
  · refine ⟨hheeds, ds, [], (List.append_nil ds).symm, hkinds, by simp, .inr ⟨by simp, ?_⟩⟩
    exact fun outcome houtcome => nomatch houtcome
  · refine ⟨hheeds, body, closing, rfl, hbody, hclosing, ?_⟩
    exact hends.imp_left fun hres => ⟨hrounds comments rfl, hres⟩

/-- The linter under the time that is taken of it. -/
theorem does_lint (c : Context) (l : Linter) (files : List String) :
    (Run.timed c "run_style_checker" (l.run files)).Does fun w ds res =>
      l.Lints ds ∧ ∀ results, res = .ok results →
        ∃ store, l.resultsOf? files w.traffic.files w.traffic.nextLintRun =
          some (store, results) := by
  have hlints := (l.does_run files).timed c "run_style_checker"
  refine (hlints.and_obeys (Run.obeys_timed c "run_style_checker" (l.obeys_run files))).imp ?_
  rintro w ds res ⟨⟨started, deeds, ended, rfl, hdeeds⟩, -, hresults, -⟩
  refine ⟨.prepared _ (.inl trivial) (hdeeds.append (by simp [Deed.IsWrite])), ?_⟩
  exact fun results hres => ⟨_, hresults results hres⟩

/-- The deeds of a review of changed files. -/
theorem does_reviewFiles (hhost : r.host.remote = .codeHost)
    (hmodel : r.model.client.remote = .model) (pull : Int) (commit : Option String)
    {files : List ChangedFile} (hfiles : files ≠ []) :
    (r.reviewFiles pull commit files).Does fun w ds res =>
      Heeds (Run.stopReason? res) w ds ∧ (∀ d ∈ ds, d.IsWrite ∨ d.IsOfReview r.linter) ∧
        r.GoesOn files w.traffic ds res := by
  have hlint := does_lint (pullContext r.settings.repository pull) r.linter
    (files.map (·.filename))
  have hrest := hlint.bind (does_findings hhost hmodel pull commit files)
  refine (hrest.checked ?_).imp ?_
  · rintro w ds res hcalm (⟨e, ⟨hlints, -⟩, -⟩ | ⟨results, lint, rest, rfl, ⟨hlints, -⟩, hheeds, -⟩)
    · exact hlints.heeds hcalm _
    · exact (hlints.heeds hcalm none).append_of_none hheeds
  rintro w ds res ⟨hheeds, hends⟩
  have hlinted : ∀ {lint : List Deed}, r.linter.Lints lint →
      ∀ d ∈ .poll :: lint, d.IsWrite ∨ d.IsReviewing ∨ d.IsLinting r.linter := fun hlints =>
    List.forall_mem_cons.2 ⟨.inr (.inl (.inl rfl)), fun d hd => (hlints.all d hd).imp_right .inr⟩
  have hfailed : ∀ {lint : List Deed} (e : Failure), r.linter.Lints lint →
      (∀ d ∈ .poll :: lint, d.IsWrite ∨ d.IsOfReview r.linter) ∧
        r.GoesOn files w.traffic (.poll :: lint) (.error e) := by
    intro lint e hlints
    refine ⟨fun d hd => (Deed.of_unpublished (hlinted hlints d hd)).1, .unsummarised ?_ ?_⟩
    · exact fun d hd => (Deed.of_unpublished (hlinted hlints d hd)).2
    · exact fun outcome houtcome => nomatch houtcome
  refine ⟨hheeds, ?_⟩
  rcases hends with ⟨e, rfl, rfl⟩ | ⟨rest, rfl, ⟨e, ⟨hlints, -⟩, rfl⟩ |
    ⟨results, lint, rest, rfl, ⟨hlints, hresults⟩, -, body, closing, rfl, hbody, hclosing, hends⟩⟩
  · exact hfailed e (.unlinted (by simp))
  · exact hfailed e hlints
  · have hfront : ∀ d ∈ .poll :: lint ++ body,
        d.IsWrite ∨ d.IsReviewing ∨ d.IsLinting r.linter :=
      List.forall_mem_append.2 ⟨hlinted hlints, fun d hd => (hbody d hd).imp_right .inl⟩
    obtain ⟨store, hresults⟩ := hresults results rfl
    have hsplit : .poll :: (lint ++ (body ++ closing)) = .poll :: lint ++ body ++ closing := by simp
    constructor
    · rw [hsplit]
      refine List.forall_mem_append.2 ⟨fun d hd => (Deed.of_unpublished (hfront d hd)).1, ?_⟩
      exact fun d hd => (hclosing d hd).imp_right fun h => .inr (.inr (.inr h))
    · rcases hends with ⟨hrounds, hres⟩ | ⟨hwrites, hres⟩
      · exact .reviewed hfiles hresults hlints hbody hrounds hclosing hres
      · rw [hsplit]
        refine .unsummarised (List.forall_mem_append.2 ⟨?_, ?_⟩) hres
        · exact fun d hd => (Deed.of_unpublished (hfront d hd)).2
        · exact fun d hd => (hwrites d hd).not_isPublishing

/-! ## Whole reviews -/

/-- The deeds of a review: it lists the changed files, and goes on if it has got them. -/
inductive Goes (r : Reviewer) (w : World) : List Deed → Except Failure Outcome → Prop
  | unlisted {fetch : List Deed} (e : Failure) (hfetch : ∀ d ∈ fetch, d.IsWrite ∨ d.IsListing) :
      Goes r w fetch (.error e)
  | listed {fetch rest : List Deed} {res : Except Failure Outcome} {files : List ChangedFile}
      (hfetch : ∀ d ∈ fetch, d.IsWrite ∨ d.IsListing)
      (hfiles : changedFiles? r.settings.extensions w.hostReplies = some files)
      (hrest : r.GoesOn files w.traffic rest res) : Goes r w (fetch ++ rest) res

/-- The linter finds the traffic that the listing has found. -/
theorem GoesOn.of_lists {files : List ChangedFile} {t t₁ : Traffic} {qs : List Request}
    (hlists : t.Lists qs t₁) {ds : List Deed} {res : Except Failure Outcome}
    (h : r.GoesOn files t₁ ds res) : r.GoesOn files t ds res := by
  obtain ⟨rfl, -⟩ := hlists
  have hfiles := t.files_sendAll qs
  have hruns : (t.sendAll qs).nextLintRun = t.nextLintRun := by
    rw [Traffic.nextLintRun, t.lintRuns_sendAll, Traffic.nextLintRun]
  cases h with
  | unsummarised hpublishes hres => exact .unsummarised hpublishes hres
  | idle hnone hclosing hres => exact .idle hnone hclosing hres
  | reviewed hne hresults hlint hbody hrounds hclosing hres =>
    rw [hfiles, hruns] at hresults
    have hcourse := GoesOn.reviewed hne hresults hlint hbody hrounds hclosing hres
    exact hcourse

/-- What follows the listing. -/
theorem does_rest (hhost : r.host.remote = .codeHost) (hmodel : r.model.client.remote = .model)
    (pull : Int) (commit : Option String) (files : List ChangedFile) :
    (r.rest pull commit files).Does fun w ds res =>
      Heeds (Run.stopReason? res) w ds ∧ (∀ d ∈ ds, d.IsWrite ∨ d.IsOfReview r.linter) ∧
        r.GoesOn files w.traffic ds res := by
  unfold rest
  by_cases hempty : files.isEmpty = true
  · rw [if_pos hempty]
    have hsummary := does_summarise hhost commit .noFiles .noFilesChanged
    refine (hsummary.noted _ .info _).imp ?_
    rintro w ds res ⟨entries, rest, rfl, hheeds, hkinds, hres⟩
    have hall : ∀ d ∈ .write entries :: rest, d.IsWrite ∨ d.IsPublishing :=
      List.forall_mem_cons.2 ⟨.inl trivial, hkinds⟩
    refine ⟨hheeds.write, fun d hd => ?_, .idle (List.isEmpty_iff.1 hempty) hall hres⟩
    exact (hall d hd).imp_right fun h => .inr (.inr (.inr h))
  · rw [if_neg hempty]
    exact does_reviewFiles hhost hmodel pull commit fun h => hempty (List.isEmpty_iff.2 h)

/-- The deeds of a review, and that it heeds the token. -/
theorem does_run (hhost : r.host.remote = .codeHost) (hmodel : r.model.client.remote = .model)
    {event : Event} {pull : PullRequest} (hpull : event.pullRequest = some pull) :
    (r.run event).Does fun w ds res =>
      Heeds (Run.stopReason? res) w ds ∧ (∀ d ∈ ds, d.IsWrite ∨ d.IsOfReview r.linter) ∧
        r.Goes w ds res := by
  rw [run_eq r hpull]
  let context := pullContext r.settings.repository pull.number
  have hattends := (attends_fetchChangedFiles hhost r.settings.repository pull.number
    r.settings.extensions).timed context "fetch_changed_files"
  have hobeys := Run.obeys_timed context "fetch_changed_files"
    (obeys_fetchChangedFiles hhost r.settings.repository pull.number r.settings.extensions)
  have hfetch := (Run.Does.and_obeys hattends hobeys).imp fun w ds res h =>
    (and_assoc.1 h : Heeds (Run.stopReason? res) w ds ∧ _)
  have hrest := does_rest hhost hmodel pull.number event.headSha
  refine ((Run.Does.bind_heeds hfetch hrest).noted context .info _).imp ?_
  rintro w ds res ⟨entries, others, rfl, hheeds, ⟨e, ⟨hkinds, -⟩, rfl⟩ |
    ⟨files, fetch, rest, rfl, ⟨hkinds, qs, hlists, hfiles⟩, hrest, hgoes⟩⟩
  · have hpages : ∀ d ∈ .write entries :: others, d.IsWrite ∨ d.IsListing :=
      List.forall_mem_cons.2 ⟨.inl trivial, hkinds⟩
    exact ⟨hheeds.write, fun d hd => (hpages d hd).imp_right .inl, .unlisted e hpages⟩
  · have hpages : ∀ d ∈ .write entries :: fetch, d.IsWrite ∨ d.IsListing :=
      List.forall_mem_cons.2 ⟨.inl trivial, hkinds⟩
    refine ⟨hheeds.write, ?_, .listed hpages (hfiles.told_of_ok files rfl) (hgoes.of_lists hlists)⟩
    exact List.forall_mem_append.2 ⟨fun d hd => (hpages d hd).imp_right .inl, hrest⟩

end Reviewer

end InlineReview
