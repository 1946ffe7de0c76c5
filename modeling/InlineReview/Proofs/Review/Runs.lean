import InlineReview.Proofs.Review.Findings

/-!
# Whole reviews

A review lists the changed files, goes through the steps for its remarks, and closes with a summary
if there is no comment.  `Reviewer.steps?` tells the steps of a review from the traffic before it.

* `Reviewer.obeys_postSummary` — what a summary sends.
* `Reviewer.run_eq` — a review lists the changed files and goes on with them.
* `Reviewer.obeys_run` — what a review sends, whether it fails or not.
-/

namespace InlineReview

open Text

namespace Reviewer

/-! ## Summaries -/

/-- The check run in which a summary is published. -/
def summaryRun (s : Settings) (sha : String) (summary : Summary) : CodeHost.CheckRun where
  name := s.checkName
  commit := some sha
  title := summary.title
  summary := summary.summary
  text := some summary.text

/-- The call that publishes a summary. -/
def summaryCall (host : Client) (s : Settings) (sha : String) (summary : Summary) : Call Json :=
  CodeHost.createCheckRun host s.repository (summaryRun s sha summary)

/-- The purposes of the requests that publish a summary: none without a commit, and none if the
request cannot be put together. -/
def summaryPurposes (host : Client) (s : Settings) (commit : Option String) (summary : Summary) :
    List Purpose :=
  match commit with
  | none | some "" => []
  | some sha =>
    if (summaryCall host s sha summary).request.isOk then
      [.checkRun (summaryRun s sha summary).published]
    else []

theorem summaryPurposes_some {host : Client} {s : Settings} {sha : String} {summary : Summary}
    (hne : sha ≠ "") :
    summaryPurposes host s (some sha) summary =
      if (summaryCall host s sha summary).request.isOk then
        [.checkRun (summaryRun s sha summary).published]
      else [] := by
  unfold summaryPurposes
  split
  · rename_i h
    cases h
  · rename_i h
    exact absurd (Option.some.inj h) hne
  · rename_i h
    rw [Option.some.inj h]

/-- Where check runs can be published at all, a summary can be if the texts of its check run are
writable. -/
theorem isOk_summaryCall_iff {host : Client} {s : Settings} {sha path : String}
    {summary : Summary} {bare : Request}
    (hpath : CodeHost.resourcePath s.repository "check-runs" = .ok path)
    (hbare : host.request .post path none none = .ok bare) :
    (summaryCall host s sha summary).request.isOk = true ↔
      IsWritable s.checkName.toList ∧ IsWritable sha.toList ∧ IsWritable summary.title.toList ∧
        IsWritable summary.summary.toList ∧ IsWritable summary.text.toList := by
  have hneutral : IsWritable "neutral".toList := by decide
  refine (CodeHost.isOk_call_iff hpath hbare).trans ((Json.isWritable_checkRun _).trans ?_)
  simp only [summaryRun, hneutral, Option.some.injEq, forall_eq', true_and]

theorem sent_of_performs {host : Client} {s : Settings} {sha : String} {summary : Summary}
    {t t' : Traffic} {res : Except Failure Json} (hremote : host.remote = .codeHost)
    (h : (summaryCall host s sha summary).Performs t res t') :
    (∃ qs, t' = t.sendAll qs ∧ qs.map Request.purpose =
        if (summaryCall host s sha summary).request.isOk then
          [.checkRun (summaryRun s sha summary).published]
        else []) ∧
      ∀ v, res = .ok v → (summaryCall host s sha summary).request.isOk = true := by
  rcases h with ⟨e, hrequest, hres, rfl⟩ | ⟨q, hrequest, -, rfl⟩
  · rw [hrequest]
    exact ⟨⟨[], rfl, rfl⟩, fun v h => by rw [hres] at h; cases h⟩
  · have hpurpose : q.purpose = .checkRun (summaryRun s sha summary).published :=
      (purpose_checkRun hremote hrequest).2
    rw [hrequest]
    exact ⟨⟨[q], rfl, by rw [List.map_singleton, hpurpose]; rfl⟩, fun _ _ => rfl⟩

/-- Publishing a summary sends its request if that can be put together, and has sent it if it does
not fail. -/
theorem obeys_postSummary {host : Client} (hremote : host.remote = .codeHost) (s : Settings)
    (commit : Option String) (summary : Summary) :
    (postSummary host s commit summary).Obeys fun t res t' =>
      (∃ qs, t' = t.sendAll qs ∧ qs.map Request.purpose = summaryPurposes host s commit summary) ∧
        (res = .ok () → ∀ sha, commit = some sha → sha ≠ "" →
          (summaryCall host s sha summary).request.isOk = true) := by
  unfold postSummary
  split
  · refine (Run.isQuiet_note _ _ _).imp ?_
    rintro t res t' ⟨rfl, rfl⟩
    exact ⟨⟨[], rfl, rfl⟩, fun _ sha h => by cases h⟩
  · refine (Run.isQuiet_note _ _ _).imp ?_
    rintro t res t' ⟨rfl, rfl⟩
    exact ⟨⟨[], rfl, rfl⟩, fun _ sha h hne => absurd (Option.some.inj h).symm hne⟩
  · rename_i sha hne
    rw [summaryPurposes_some fun h => hne (by rw [h])]
    refine ((summaryCall host s sha summary).obeys_perform.bind fun _ => Run.obeys_pure ()).imp ?_
    rintro t res t' (⟨e, hperforms, rfl⟩ | ⟨v, t₁, hperforms, rfl, rfl⟩)
    · exact ⟨(sent_of_performs hremote hperforms).1, fun h => by cases h⟩
    · obtain ⟨hsent, hok⟩ := sent_of_performs hremote hperforms
      refine ⟨hsent, fun _ other h _ => ?_⟩
      rw [← Option.some.inj h]
      exact hok v rfl

end Reviewer

/-! ## What is sent -/

/-- Are requests of these purposes all that is sent? -/
def Traffic.Adds (t : Traffic) (ps : List Purpose) (t' : Traffic) : Prop :=
  ∃ qs, t'.sent = t.sent ++ qs ∧ qs.map Request.purpose = ps

namespace Traffic.Adds

variable {t t₁ t' : Traffic} {ps rs : List Purpose}

theorem of_silent (h : Linter.IsSilent t t') : t.Adds [] t' := ⟨[], by simpa using h.sent_eq, rfl⟩

theorem of_sendAll {qs : List Request} (h : t' = t.sendAll qs) :
    t.Adds (qs.map Request.purpose) t' := ⟨qs, by rw [h, t.sent_sendAll], rfl⟩

theorem trans (h : t.Adds ps t₁) (h' : t₁.Adds rs t') : t.Adds (ps ++ rs) t' := by
  obtain ⟨qs, hqs, rfl⟩ := h
  obtain ⟨os, hos, rfl⟩ := h'
  exact ⟨qs ++ os, by rw [hos, hqs, List.append_assoc], List.map_append⟩

theorem of_remarks (h : t.Remarks t') : ∃ ps, t.Adds ps t' ∧ ∀ p ∈ ps, p.IsRemark := by
  obtain ⟨qs, hqs, hall⟩ := h
  exact ⟨_, of_sendAll hqs, by simpa using hall⟩

theorem of_lists {qs : List Request} (h : t.Lists qs t') :
    ∃ ps, t.Adds ps t' ∧ ∀ p ∈ ps, p = .listing :=
  ⟨_, of_sendAll h.1, by simpa using fun q hq => (h.2 q hq).2⟩

end Traffic.Adds

namespace Reviewer

/-! ## Reviews -/

/-- The remarks of a review of changed files, told from the traffic before it. -/
def remarksFor? (r : Reviewer) (t : Traffic) (files : List ChangedFile) : Option (List Remark) := do
  let (store, results) ← r.linter.resultsOf? (files.map (·.filename)) t.files t.nextLintRun
  (remarks r.settings.workspace files store results).toOption

/-- The remarks of a review, told from the traffic before it. -/
def remarks? (r : Reviewer) (t : Traffic) : Option (List Remark) := do
  let files ← changedFiles? r.settings.extensions t.hostReplies
  r.remarksFor? t files

/-- The steps of a review, told from the traffic before it. -/
def steps? (r : Reviewer) (t : Traffic) : Option (List Step) :=
  (r.remarks? t).map (r.steps t.modelReplies)

/-- Does an outcome tell of comments, and is its summary all that closes the review? -/
structure Closes (r : Reviewer) (commit : Option String) (comments : List InlineComment)
    (closing : List Purpose) (outcome : Outcome) : Prop where
  comments_eq : outcome.comments = comments
  closing_eq : closing = outcome.summary?.elim [] (summaryPurposes r.host r.settings commit)
  closed : ∀ summary, outcome.summary? = some summary → ∀ sha, commit = some sha → sha ≠ "" →
    (summaryCall r.host r.settings sha summary).request.isOk = true
  found : ∀ comments, outcome = .issuesFound comments → comments ≠ []

/-- Does a review that ends with an outcome send what its steps and its outcome call for? -/
structure Completes (r : Reviewer) (pull : Int) (commit : Option String) (t : Traffic)
    (steps : List Step) (body closing : List Purpose) (outcome : Outcome) (t' : Traffic) : Prop
    extends Closes r commit (steps.filterMap Step.comment) closing outcome where
  body_eq : body = steps.flatMap (r.purposesOf pull commit)
  idle : outcome = .noFilesChanged → steps = [] ∧ t'.commands = t.commands

/-- What a review does that has its changed files, and so its remarks if they can be told. -/
structure Proceeds (r : Reviewer) (pull : Int) (commit : Option String)
    (remarks? : Option (List Remark)) (t : Traffic) (res : Except Failure Outcome) (t' : Traffic)
    (body closing : List Purpose) : Prop where
  adds : t.Adds (body ++ closing) t'
  body_remarks : ∀ p ∈ body, p.IsRemark
  closing_cases : closing = [] ∨ ∃ summary, (summary = .noFiles ∨ summary = .noIssues) ∧
    closing = summaryPurposes r.host r.settings commit summary
  completes : ∀ outcome, res = .ok outcome → ∃ xs, remarks? = some xs ∧
    r.Completes pull commit t (r.steps t.modelReplies xs) body closing outcome t'
  /-- It does not fail in a calm run that has comments and whose questions are harmless. -/
  succeeds : t.isCalm = true → r.model.IsAddressed → ∀ xs, remarks? = some xs →
    r.AreHarmless t.modelReplies xs → (r.steps t.modelReplies xs).filterMap Step.comment ≠ [] →
      ∃ outcome, res = .ok outcome

/-- Closes a review with the comments that its findings got. -/
def closing (r : Reviewer) (commit : Option String) (comments : List InlineComment) :
    Run Outcome :=
  if comments.isEmpty then do
    postSummary r.host r.settings commit .noIssues
    pure .noIssuesFound
  else do
    Run.noteSuccess (repositoryContext r.settings) s!"Posted {comments.length} inline comment(s)"
    pure (.issuesFound comments)

/-- How a review of changed files is closed: with a summary if there is no comment. -/
theorem obeys_closing {r : Reviewer} (hhost : r.host.remote = .codeHost)
    (commit : Option String) (comments : List InlineComment) :
    (r.closing commit comments).Obeys fun t res t' => ∃ closing,
      t.Adds closing t' ∧
      (closing = [] ∨ closing = summaryPurposes r.host r.settings commit .noIssues) ∧
      (∀ outcome, res = .ok outcome →
        r.Closes commit comments closing outcome ∧ outcome ≠ .noFilesChanged) ∧
      (comments ≠ [] → ∃ outcome, res = .ok outcome) := by
  unfold closing
  by_cases hempty : comments.isEmpty = true
  · rw [if_pos hempty]
    have hnil : comments = [] := List.isEmpty_iff.1 hempty
    refine ((obeys_postSummary hhost r.settings commit .noIssues).bind fun _ =>
      Run.obeys_pure Outcome.noIssuesFound).imp ?_
    rintro t res t' (⟨e, ⟨⟨qs, hqs, hpurposes⟩, -⟩, rfl⟩ |
      ⟨_, _, ⟨⟨qs, hqs, hpurposes⟩, hclosed⟩, rfl, rfl⟩)
    · exact ⟨_, .of_sendAll hqs, .inr hpurposes, fun _ h => (by cases h), fun h => absurd hnil h⟩
    · refine ⟨_, .of_sendAll hqs, .inr hpurposes, fun outcome h => ?_, fun _ => ⟨_, rfl⟩⟩
      obtain rfl := Except.ok.inj h
      refine ⟨⟨hnil.symm, hpurposes, ?_, by simp⟩, by simp⟩
      intro summary hsummary
      rw [← Option.some.inj hsummary]
      exact hclosed rfl
  · rw [if_neg hempty]
    refine ((Run.obeys_pure (Outcome.issuesFound comments)).after
      (Run.isQuiet_noteSuccess _ _)).imp ?_
    rintro t res t' ⟨rfl, rfl⟩
    refine ⟨[], ⟨[], by simp, rfl⟩, .inl rfl, fun outcome h => ?_, fun _ => ⟨_, rfl⟩⟩
    obtain rfl := Except.ok.inj h
    refine ⟨⟨rfl, rfl, fun _ h => (by cases h), fun found h => ?_⟩, by simp⟩
    obtain rfl : comments = found := by simpa using h
    simpa using hempty

theorem isRemark_of_mem {r : Reviewer} {pull : Int} {commit : Option String} {steps : List Step}
    {p : Purpose} (h : p ∈ steps.flatMap (r.purposesOf pull commit)) : p.IsRemark := by
  obtain ⟨s, -, hp⟩ := List.mem_flatMap.1 h
  rcases List.mem_cons.1 hp with rfl | hcomment
  · trivial
  · obtain ⟨c, -, rfl⟩ := List.mem_map.1 hcomment
    trivial

theorem remarksFor?_of_results {r : Reviewer} {t : Traffic} {files : List ChangedFile}
    {store : FileStore} {results : List LintResult}
    (h : r.linter.resultsOf? (files.map (·.filename)) t.files t.nextLintRun =
      some (store, results)) :
    r.remarksFor? t files = (remarks r.settings.workspace files store results).toOption := by
  rw [remarksFor?, h]
  rfl

/-- What reviewing changed files sends: questions and comments, then a summary if there is no
comment, which may be what fails. -/
theorem obeys_reviewFiles {r : Reviewer} (hhost : r.host.remote = .codeHost)
    (hmodel : r.model.client.remote = .model) (pull : Int) (commit : Option String)
    (files : List ChangedFile) :
    (r.reviewFiles pull commit files).Obeys fun t res t' => ∃ body closing,
      r.Proceeds pull commit (r.remarksFor? t files) t res t' body closing := by
  unfold reviewFiles
  have hlint := Run.obeys_timed (pullContext r.settings.repository pull) "run_style_checker"
    (r.linter.obeys_run (files.map (·.filename)))
  have hreview := fun results =>
    (obeys_reviewResults hhost hmodel pull commit files results).bind fun comments =>
      obeys_closing hhost commit comments
  refine (Run.obeys_checkCancelled.bind fun _ => hlint.bind hreview).imp ?_
  rintro _ res t' (⟨e, ⟨rfl, hcancelled⟩, rfl⟩ | ⟨_, t, ⟨rfl, -⟩, ⟨e, ⟨hsilent, -, hlints⟩, rfl⟩ |
    ⟨results, t₁, ⟨hsilent, hresults, hlints⟩, hrest⟩⟩)
  · refine ⟨[], [], ⟨⟨[], by simp, rfl⟩, by simp, .inl rfl, fun _ h => (by cases h), ?_⟩⟩
    intro hcalm
    rcases hcancelled with h | ⟨hstormy, -⟩
    · cases h
    · cases hcalm.symm.trans hstormy
  · refine ⟨[], [], ⟨.of_silent hsilent, by simp, .inl rfl, fun _ h => (by cases h), ?_⟩⟩
    intro _ _ xs hxs
    obtain ⟨⟨store, results⟩, hresults, -⟩ := Option.bind_eq_some_iff.1 hxs
    cases hlints store results hresults
  have hxs : ∀ xs, r.remarksFor? t files = some xs ↔
      remarks r.settings.workspace files t₁.files results = .ok xs := by
    intro xs
    rw [remarksFor?_of_results (hresults results rfl), Run.toOption_eq_some]
  have hcalm := hsilent.isCalm_eq
  have hreplies := hsilent.modelReplies_eq
  rcases hrest with ⟨e, hreviews, rfl⟩ |
    ⟨comments, t₂, hreviews, closing, hcloses, hclosing, hends, hfinds⟩
  · obtain ⟨body, hbody, hall⟩ := Traffic.Adds.of_remarks hreviews.sends
    refine ⟨body, [], ⟨?_, hall, .inl rfl, fun _ h => (by cases h), ?_⟩⟩
    · simpa using (Traffic.Adds.of_silent hsilent).trans hbody
    · intro hstill haddressed xs h hharmless _
      rw [← hreplies] at hharmless
      obtain ⟨_, h⟩ := hreviews.succeeds (hcalm.trans hstill) haddressed xs ((hxs xs).1 h) hharmless
      cases h
  · obtain ⟨xs, hremarks, hwent⟩ := hreviews.went comments rfl
    obtain ⟨qs, hqs, hpurposes⟩ := hwent.sent
    have hbody := (Traffic.Adds.of_silent hsilent).trans (.of_sendAll hqs)
    have hcomments := hwent.comments_eq
    rw [hreplies] at hpurposes hcomments
    rw [List.nil_append, hpurposes] at hbody
    refine ⟨_, closing, ⟨hbody.trans hcloses, fun p => isRemark_of_mem,
      hclosing.imp_right fun h => ⟨_, .inr rfl, h⟩, fun outcome h => ?_, ?_⟩⟩
    · obtain ⟨hcloses, hne⟩ := hends outcome h
      rw [hcomments] at hcloses
      exact ⟨xs, (hxs xs).2 hremarks, hcloses, rfl, fun h => absurd h hne⟩
    · intro _ _ xs' h _ hfound
      obtain rfl := Except.ok.inj (((hxs xs').1 h).symm.trans hremarks)
      exact hfinds (by rwa [hcomments])

/-- How a review without changed files is closed. -/
theorem obeys_noFiles {r : Reviewer} (hhost : r.host.remote = .codeHost)
    (commit : Option String) (context : Context) :
    (do
      Run.note context .info "No JS/TS files changed, skipping linting."
      postSummary r.host r.settings commit .noFiles
      pure .noFilesChanged : Run Outcome).Obeys fun t res t' => ∃ closing,
      t.Adds closing t' ∧ t'.commands = t.commands ∧
      closing = summaryPurposes r.host r.settings commit .noFiles ∧
      ∀ outcome, res = .ok outcome → r.Closes commit [] closing outcome := by
  refine (((obeys_postSummary hhost r.settings commit .noFiles).bind fun _ =>
    Run.obeys_pure Outcome.noFilesChanged).after (Run.isQuiet_note _ _ _)).imp ?_
  rintro t res t' (⟨e, ⟨⟨qs, hqs, hpurposes⟩, -⟩, rfl⟩ |
    ⟨_, _, ⟨⟨qs, hqs, hpurposes⟩, hclosed⟩, rfl, rfl⟩)
  · exact ⟨_, .of_sendAll hqs, by rw [hqs, t.commands_sendAll], hpurposes, fun _ h => by cases h⟩
  · refine ⟨_, .of_sendAll hqs, by rw [hqs, t.commands_sendAll], hpurposes, fun outcome h => ?_⟩
    obtain rfl := Except.ok.inj h
    refine ⟨rfl, hpurposes, fun summary hsummary => ?_, by simp⟩
    rw [← Option.some.inj hsummary]
    exact hclosed rfl

/-- What a review does once it has the changed files. -/
def rest (r : Reviewer) (pull : Int) (commit : Option String) (files : List ChangedFile) :
    Run Outcome :=
  if files.isEmpty then do
    Run.note (pullContext r.settings.repository pull) .info
      "No JS/TS files changed, skipping linting."
    postSummary r.host r.settings commit .noFiles
    pure .noFilesChanged
  else r.reviewFiles pull commit files

theorem run_eq {event : Event} {pull : PullRequest} (r : Reviewer)
    (hpull : event.pullRequest = some pull) :
    r.run event = (do
      Run.note (pullContext r.settings.repository pull.number) .info
        "=== PROCESSOR: Starting lint review ==="
      let files ← Run.timed (pullContext r.settings.repository pull.number) "fetch_changed_files"
        (fetchChangedFiles r.host r.settings.repository pull.number r.settings.extensions)
      r.rest pull.number event.headSha files) := by
  rw [run, hpull]
  rfl

theorem run_eq_throw {event : Event} (r : Reviewer) (hpull : event.pullRequest = none) :
    r.run event = throw .notPullRequest := by
  rw [run, hpull]

/-- What a review sends once it has the changed files. -/
theorem obeys_rest {r : Reviewer} (hhost : r.host.remote = .codeHost)
    (hmodel : r.model.client.remote = .model) (pull : Int) (commit : Option String)
    (files : List ChangedFile) :
    (r.rest pull commit files).Obeys fun t res t' => ∃ body closing,
        r.Proceeds pull commit (r.remarksFor? t files) t res t' body closing := by
  unfold rest
  by_cases hempty : files.isEmpty = true
  · rw [if_pos hempty]
    obtain rfl := List.isEmpty_iff.1 hempty
    refine (obeys_noFiles hhost commit _).imp ?_
    rintro t res t' ⟨closing, hadds, hcommands, hclosing, hcloses⟩
    refine ⟨[], closing, ⟨hadds, by simp, .inr ⟨_, .inl rfl, hclosing⟩, fun outcome h => ?_, ?_⟩⟩
    · exact ⟨[], rfl, hcloses outcome h, rfl, fun _ => ⟨rfl, hcommands⟩⟩
    · intro _ _ xs hxs _ hfound
      obtain rfl : [] = xs := Option.some.inj hxs
      exact absurd rfl hfound
  · rw [if_neg hempty]
    exact obeys_reviewFiles hhost hmodel pull commit files

theorem remarksFor?_lists {r : Reviewer} {t t₁ : Traffic} {qs : List Request}
    (h : t.Lists qs t₁) (files : List ChangedFile) :
    r.remarksFor? t₁ files = r.remarksFor? t files := by
  obtain ⟨rfl, -⟩ := h
  rw [remarksFor?, remarksFor?, Traffic.nextLintRun, t.files_sendAll, t.lintRuns_sendAll]
  rfl

/-- What a review sends: requests for pages, questions and comments, and then a summary if there is
no comment, which may be what fails. -/
theorem obeys_run {r : Reviewer} (hhost : r.host.remote = .codeHost)
    (hmodel : r.model.client.remote = .model) {event : Event} {pull : PullRequest}
    (hpull : event.pullRequest = some pull) :
    (r.run event).Obeys fun t res t' => ∃ pages body closing,
      t.Adds (pages ++ (body ++ closing)) t' ∧ (∀ p ∈ pages, p = .listing) ∧
      (∀ p ∈ body, p.IsRemark) ∧
      (closing = [] ∨ ∃ summary, (summary = .noFiles ∨ summary = .noIssues) ∧
        closing = summaryPurposes r.host r.settings event.headSha summary) ∧
      (∀ outcome, res = .ok outcome → ∃ steps, r.steps? t = some steps ∧
        r.Completes pull.number event.headSha t steps body closing outcome t') ∧
      (t.isCalm = true → r.model.IsAddressed →
        (∀ k ≤ t.hostReplies.length,
          CodeHost.IsListable r.host r.settings.repository pull.number (k + 1)) →
        ∀ xs, r.remarks? t = some xs → r.AreHarmless t.modelReplies xs →
          (r.steps t.modelReplies xs).filterMap Step.comment ≠ [] →
            ∃ outcome, res = .ok outcome) := by
  rw [run_eq r hpull]
  have hfetch := Run.obeys_timed (pullContext r.settings.repository pull.number)
    "fetch_changed_files" (obeys_fetchChangedFiles hhost r.settings.repository pull.number
      r.settings.extensions)
  refine ((hfetch.bind fun files => obeys_rest hhost hmodel pull.number event.headSha
    files).after (Run.isQuiet_note _ _ _)).imp ?_
  rintro t res t' (⟨e, ⟨qs, hlists, -, hfetches⟩, rfl⟩ |
    ⟨files, t₁, ⟨qs, hlists, hfiles, -⟩, body, closing, hproceeds⟩)
  · obtain ⟨pages, hpages, hall⟩ := Traffic.Adds.of_lists hlists
    refine ⟨pages, [], [], by simpa using hpages, hall, by simp, .inl rfl,
      fun _ h => (by cases h), ?_⟩
    intro _ _ hlistable xs hxs
    obtain ⟨files, hfiles, -⟩ := Option.bind_eq_some_iff.1 hxs
    cases hfetches hlistable files hfiles
  · obtain ⟨pages, hpages, hall⟩ := Traffic.Adds.of_lists hlists
    have hremarks : r.remarks? t = r.remarksFor? t₁ files := by
      rw [remarks?, hfiles files rfl, remarksFor?_lists hlists]
      rfl
    have hreplies : t₁.modelReplies = t.modelReplies := by
      rw [hlists.1, Traffic.modelReplies_sendAll_host fun q hq => (hlists.2 q hq).1]
    have hcalm : t₁.isCalm = t.isCalm := by rw [hlists.1, t.isCalm_sendAll]
    refine ⟨pages, body, closing, hpages.trans hproceeds.adds, hall, hproceeds.body_remarks,
      hproceeds.closing_cases, fun outcome h => ?_, ?_⟩
    · obtain ⟨xs, hxs, hcompletes⟩ := hproceeds.completes outcome h
      rw [hreplies] at hcompletes
      refine ⟨_, by rw [steps?, hremarks, hxs]; rfl, hcompletes.toCloses, hcompletes.body_eq,
        fun hidle => ?_⟩
      obtain ⟨hnil, hcommands⟩ := hcompletes.idle hidle
      exact ⟨hnil, by rw [hcommands, hlists.1, t.commands_sendAll]⟩
    · intro hstill haddressed _ xs hxs hharmless hfound
      rw [← hreplies] at hharmless hfound
      exact hproceeds.succeeds (hcalm.trans hstill) haddressed xs (hremarks ▸ hxs) hharmless hfound

end Reviewer

end InlineReview
