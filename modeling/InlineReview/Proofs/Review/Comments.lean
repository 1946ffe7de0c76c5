import InlineReview.Proofs.Review.Runs

/-!
# The comments of a review

The steps of a review tell its comments.  A review that ends with an outcome has gone through all of
them in order; its outcome tells of the same comments, and those of them have been posted whose
request can be put together.

* `Reviewer.isPostable_iff` — which comments can be posted.
* `Reviewer.run_follows_steps` — what a review asks, posts and tells of.
* `Reviewer.run_sampleWorld_omits` — a comment that is told of and not posted.
-/

namespace InlineReview

open Text

/-- The comment that a request places, with the commit. -/
def Request.placed? (q : Request) : Option (Option String × InlineComment) := q.purpose.placed?

namespace Reviewer

/-! ## What is posted -/

/-- Where comments can be posted at all, a comment can be if its texts are writable. -/
theorem isPostable_iff {r : Reviewer} {pull : Int} {commit : Option String} {path : String}
    {bare : Request} (c : InlineComment)
    (hpath : CodeHost.resourcePath r.settings.repository s!"pulls/{pull}/comments" = .ok path)
    (hbare : r.host.request .post path none none = .ok bare) :
    r.isPostable pull commit c = true ↔
      IsWritable c.body.toList ∧ (∀ s, commit = some s → IsWritable s.toList) ∧
        IsWritable c.path.toList := by
  rw [← Json.isWritable_comment c.body c.path commit c.position]
  exact CodeHost.isOk_call_iff hpath hbare

/-- A summary is published in a check run. -/
theorem checkRun_of_mem {host : Client} {s : Settings} {commit : Option String}
    {summary : Summary} {p : Purpose} (h : p ∈ summaryPurposes host s commit summary) :
    ∃ sha, p = .checkRun (summaryRun s sha summary).published := by
  unfold summaryPurposes at h
  split at h
  · cases h
  · cases h
  · rename_i sha _
    split at h
    · exact ⟨sha, List.mem_singleton.1 h⟩
    · cases h

/-- Nothing is placed where only pages are asked for and check runs published. -/
theorem placed_eq_nil {ps : List Purpose}
    (h : ∀ p ∈ ps, p = .listing ∨ ∃ run, p = .checkRun run) :
    ps.filterMap Purpose.placed? = [] := by
  refine List.filterMap_eq_nil_iff.2 fun p hp => ?_
  rcases h p hp with rfl | ⟨run, rfl⟩ <;> rfl

/-- What a review does that ends with an outcome. -/
theorem obeys_steps {r : Reviewer} (hhost : r.host.remote = .codeHost)
    (hmodel : r.model.client.remote = .model) {event : Event} {pull : PullRequest}
    (hpull : event.pullRequest = some pull) :
    (r.run event).Obeys fun t res t' => ∀ outcome, res = .ok outcome →
      ∃ steps qs pages closing, r.steps? t = some steps ∧ t'.sent = t.sent ++ qs ∧
        outcome.comments = steps.filterMap Step.comment ∧
        qs.map Request.purpose =
          pages ++ (steps.flatMap (r.purposesOf pull.number event.headSha) ++ closing) ∧
        (∀ p ∈ pages, p = .listing) ∧ (∀ p ∈ closing, ∃ run, p = .checkRun run) ∧
        qs.filterMap Request.placed? =
          (outcome.comments.filter (r.isPostable pull.number event.headSha)).map
            (event.headSha, ·) := by
  refine (obeys_run hhost hmodel hpull).imp ?_
  rintro t res t' ⟨pages, body, closing, ⟨qs, hsent, hpurposes⟩, hpages, -, hclosing, hends, -⟩
    outcome hres
  obtain ⟨steps, hsteps, hcompletes⟩ := hends outcome hres
  have hchecks : ∀ p ∈ closing, ∃ run, p = .checkRun run := by
    intro p hp
    rcases hclosing with rfl | ⟨summary, -, rfl⟩
    · cases hp
    · obtain ⟨sha, rfl⟩ := checkRun_of_mem hp
      exact ⟨_, rfl⟩
  rw [hcompletes.body_eq] at hpurposes
  refine ⟨steps, qs, pages, closing, hsteps, hsent, hcompletes.comments_eq, hpurposes, hpages,
    hchecks, ?_⟩
  have hplaced : qs.filterMap Request.placed? =
      (qs.map Request.purpose).filterMap Purpose.placed? := List.filterMap_map.symm
  rw [hplaced, hpurposes, List.filterMap_append, List.filterMap_append,
    placed_eq_nil fun p hp => .inl (hpages p hp), placed_eq_nil fun p hp => .inr (hchecks p hp),
    placed_of_steps, hcompletes.comments_eq, List.nil_append, List.append_nil]

theorem pullRequest_of_run {r : Reviewer} {event : Event} {w w' : World} {outcome : Outcome}
    (h : (r.run event).outcome w = (.ok outcome, w')) :
    ∃ pull, event.pullRequest = some pull := by
  cases hpull : event.pullRequest with
  | some pull => exact ⟨pull, rfl⟩
  | none =>
    unfold run at h
    rw [hpull] at h
    cases h

/-- A review that ends with an outcome has asked about each remark in the order of the linter and
then posted its comment, between the requests for pages and the summary.  Its outcome tells of the
comments of all steps, and those of them have been posted whose request can be put together.  Where
comments can be posted at all, these are the comments whose texts are writable. -/
theorem run_follows_steps {r : Reviewer} {event : Event} {w w' : World} {outcome : Outcome}
    (hhost : r.host.remote = .codeHost) (hmodel : r.model.client.remote = .model)
    (hrun : (r.run event).outcome w = (.ok outcome, w')) :
    ∃ pull steps qs pages closing, event.pullRequest = some pull ∧
      r.steps? w.traffic = some steps ∧ w'.sent = w.sent ++ qs ∧
      outcome.comments = steps.filterMap Step.comment ∧
      qs.map Request.purpose =
        pages ++ (steps.flatMap (r.purposesOf pull.number event.headSha) ++ closing) ∧
      (∀ p ∈ pages, p = .listing) ∧ (∀ p ∈ closing, ∃ run, p = .checkRun run) ∧
      qs.filterMap Request.placed? =
        (outcome.comments.filter (r.isPostable pull.number event.headSha)).map
          (event.headSha, ·) ∧
      ∀ path bare,
        CodeHost.resourcePath r.settings.repository s!"pulls/{pull.number}/comments" = .ok path →
        r.host.request .post path none none = .ok bare →
        ∀ c, r.isPostable pull.number event.headSha c = true ↔
          IsWritable c.body.toList ∧ (∀ s, event.headSha = some s → IsWritable s.toList) ∧
            IsWritable c.path.toList := by
  obtain ⟨pull, hpull⟩ := pullRequest_of_run hrun
  have hobeys := obeys_steps hhost hmodel hpull w
  rw [hrun] at hobeys
  obtain ⟨steps, qs, pages, closing, hsteps, hsent, hcomments, hpurposes, hpages, hclosing,
    hplaced⟩ := hobeys outcome rfl
  exact ⟨pull, steps, qs, pages, closing, hpull, hsteps, hsent, hcomments, hpurposes, hpages,
    hclosing, hplaced, fun path bare hpath hbare c => isPostable_iff c hpath hbare⟩

/-! ## A comment that is not posted -/

/-- Settings for a repository with one directory. -/
def sampleSettings : Settings where
  hostToken := "t"
  modelKey := "k"
  repository := "o/r"
  eventPath := { anchor := .slash, parts := ["e"] }
  workspace := { anchor := .slash, parts := ["w"] }
  hostAddress := {
    scheme := "http", user := "", host := "h", port := none, path := "/", query := none
    fragment := none }
  modelAddress := {
    scheme := "http", user := "", host := "m", port := none, path := "/", query := none
    fragment := none }
  modelName := "x"
  extensions := [".js"]
  linter := "l"
  linterConfig := "c"
  linterDirectory := none
  reportPath := none
  timeout := Settings.defaultTimeout
  postLintOnly := true
  checkName := "n"

/-- A reviewer whose services lie behind one address. -/
def sampleReviewer : Reviewer where
  settings := sampleSettings
  host := { Model.sampleModel.client with remote := .codeHost }
  model := Model.sampleModel
  linter := {
    program := "l"
    config := "c"
    directory := sampleSettings.linterPlace
    workspace := sampleSettings.workspace
    report := sampleSettings.reportPlace }

/-- A pull request. -/
def samplePullRequest : PullRequest where
  number := 1
  title := none
  url := none
  head := { ref := none, sha := some "s" }
  base := Endpoint.unknown

/-- Its event. -/
def sampleEvent : Event where
  action := none
  pullRequest := some samplePullRequest
  repository := none
  sender := []

/-- A world with a changed file of one line, on which the linter reports two rules.  The name of the
second is half of a pair, which a report can escape and UTF-8 cannot write. -/
def sampleWorld : World where
  files := [({ twoSlashes := false, components := ["w", "a.js"] }, .content [0x78])]
  hostReplies := [{ result := .ok (Response.success
    "[\x7b\"filename\":\"a.js\",\"patch\":\"@@ -0,0 +1 @@\\n+x\"\x7d]") }]
  lintRuns := [{ report := some (Utf8.encode
    ("[\x7b\"filePath\":\"/w/a.js\",\"messages\":[\x7b\"line\":1,\"ruleId\":\"r\"\x7d," ++
      "\x7b\"line\":1,\"ruleId\":\"\\udc00\"\x7d]\x7d]").toList) }]

/-- The comment on one of the rules. -/
def sampleComment (rule : String) : InlineComment where
  path := "a.js"
  position := 2
  body := InlineComment.bodyOf (.str "") (.str rule) none

/-- The comments on both rules. -/
def sampleComments : List InlineComment :=
  [sampleComment "r", sampleComment (String.singleton (ofCodePoint 0xDC00))]

theorem steps?_sampleWorld :
    (sampleReviewer.steps? sampleWorld.traffic).map (·.filterMap Step.comment) =
      some sampleComments := by
  decide +kernel

theorem comments_of_steps?_sampleWorld {steps : List Step}
    (h : sampleReviewer.steps? sampleWorld.traffic = some steps) :
    steps.filterMap Step.comment = sampleComments := by
  have hall := steps?_sampleWorld
  rw [h] at hall
  exact Option.some.inj hall

theorem filter_sampleComments :
    sampleComments.filter (sampleReviewer.isPostable samplePullRequest.number
      sampleEvent.headSha) = [sampleComment "r"] := by
  decide +kernel

/-- The last answer of the model is the text that stands for none, which can be read. -/
theorem isHarmless_last {m : Model} {message code : String}
    (hcountable : Run.isUncountable (some m.timeout) = false)
    (hmessage : IsWritable message.toList) (hcode : IsWritable code.toList) :
    m.IsHarmless message code (Reply.last .post) where
  countable := hcountable
  message_writable := hmessage
  code_writable := hcode
  readable := by
    intro response _ h
    obtain rfl := Except.ok.inj h
    have hjson : (Response.success "\x7b\x7d").json.toOption.map Model.extractText =
        some Model.noAnswer := by decide +kernel
    have hread : (Json.readL (trimL (Fence.fragmentL Model.noAnswer.toList))).isOk = true := by
      decide +kernel
    rintro (⟨container, hdeep⟩ | ⟨v, passed, hv, hlimit⟩)
    · rw [hdeep] at hjson
      cases hjson
    · rw [hv] at hjson
      rw [Option.some.inj hjson] at hlimit
      rw [hlimit] at hread
      cases hread

theorem areHarmless_nil {r : Reviewer} {xs : List Remark}
    (h : ∀ x ∈ xs, r.model.IsHarmless x.finding.message.text x.code (Reply.last .post)) :
    r.AreHarmless [] xs := by
  induction xs with
  | nil => trivial
  | cons x xs ih => exact ⟨h x (by simp), ih fun y hy => h y (by simp [hy])⟩

/-- Where the model gives its last answer to every question, a review that has a comment ends with
an outcome. -/
theorem exists_outcome_of_silent {r : Reviewer} (hhost : r.host.remote = .codeHost)
    (hmodel : r.model.client.remote = .model) {event : Event} {pull : PullRequest}
    (hpull : event.pullRequest = some pull) {w : World} {xs : List Remark}
    (hcalm : w.traffic.isCalm = true) (hreplies : w.traffic.modelReplies = [])
    (haddressed : r.model.IsAddressed)
    (hcountable : Run.isUncountable (some r.model.timeout) = false)
    (hlistable : ∀ k ≤ w.traffic.hostReplies.length,
      CodeHost.IsListable r.host r.settings.repository pull.number (k + 1))
    (hxs : r.remarks? w.traffic = some xs)
    (hwritable : ∀ x ∈ xs, IsWritable x.finding.message.text.toList ∧ IsWritable x.code.toList)
    (hfound : (r.steps [] xs).filterMap Step.comment ≠ []) :
    ∃ outcome w', (r.run event).outcome w = (.ok outcome, w') := by
  have hobeys := obeys_run hhost hmodel hpull w
  generalize (r.run event).outcome w = ended at hobeys ⊢
  obtain ⟨res, w'⟩ := ended
  obtain ⟨_, _, _, -, -, -, -, -, hsucceeds⟩ := hobeys
  have hharmless : r.AreHarmless [] xs := areHarmless_nil fun x hx =>
    isHarmless_last hcountable (hwritable x hx).1 (hwritable x hx).2
  rw [← hreplies] at hharmless hfound
  obtain ⟨outcome, h⟩ := hsucceeds hcalm haddressed hlistable xs hxs hharmless hfound
  obtain rfl : res = .ok outcome := h
  exact ⟨outcome, w', rfl⟩

theorem remarks?_sampleWorld :
    (sampleReviewer.remarks? sampleWorld.traffic).map
      (·.map fun x => (x.finding.message.text, x.code)) = some [("", "x"), ("", "x")] := by
  decide +kernel

theorem isAddressed_iff {m : Model} : m.IsAddressed ↔
    (m.client.request .post s!"/models/{m.name}:generateContent" none none).toOption.any
      (fun bare => Base.hasKind bare.url.toList) = true := by
  unfold Model.IsAddressed
  cases m.client.request .post s!"/models/{m.name}:generateContent" none none <;>
    simp [Except.toOption]

theorem isListable_iff {c : Client} {fullName : String} {pull : Int} {page : Nat} :
    CodeHost.IsListable c fullName pull page ↔
      (CodeHost.listPage c fullName pull page).request.toOption.any
        (fun q => Base.hasKind q.url.toList) = true := by
  unfold CodeHost.IsListable
  cases (CodeHost.listPage c fullName pull page).request <;> simp [Except.toOption]

theorem isListable_sample {k : Nat} (h : k ≤ 1) :
    CodeHost.IsListable sampleReviewer.host "o/r" 1 (k + 1) := by
  rw [isListable_iff]
  rcases Nat.le_one_iff_eq_zero_or_eq_one.1 h with rfl | rfl <;> decide +kernel

/-- The review goes on after the comment that is not posted. -/
theorem outcome_run_sampleWorld :
    ∃ outcome w', (sampleReviewer.run sampleEvent).outcome sampleWorld = (.ok outcome, w') := by
  have haddressed : Model.sampleModel.IsAddressed :=
    ⟨Model.sampleRequest, rfl, by decide +kernel⟩
  have hpairs := remarks?_sampleWorld
  have hcomments := steps?_sampleWorld
  rw [steps?] at hcomments
  cases hxs : sampleReviewer.remarks? sampleWorld.traffic with
  | none =>
    rw [hxs] at hpairs
    cases hpairs
  | some xs =>
    rw [hxs] at hpairs hcomments
    have hwritable : ∀ x ∈ xs, IsWritable x.finding.message.text.toList ∧
        IsWritable x.code.toList := by
      intro x hx
      have hpair : (x.finding.message.text, x.code) ∈ [("", "x"), ("", "x")] := by
        rw [← Option.some.inj hpairs]
        exact List.mem_map_of_mem hx
      obtain ⟨hmessage, hcode⟩ : x.finding.message.text = "" ∧ x.code = "x" := by
        simpa using hpair
      rw [hmessage, hcode]
      decide
    have hfound : (sampleReviewer.steps [] xs).filterMap Step.comment ≠ [] := by
      have hall : (sampleReviewer.steps [] xs).filterMap Step.comment = sampleComments :=
        Option.some.inj hcomments
      rw [hall]
      simp [sampleComments]
    have hpull : sampleEvent.pullRequest = some samplePullRequest := rfl
    exact exists_outcome_of_silent (r := sampleReviewer) rfl rfl hpull rfl rfl haddressed rfl
      (fun k hk => isListable_sample hk) hxs hwritable hfound

/-- The review tells of both comments and has posted one. -/
theorem run_sampleWorld_posts :
    sampleReviewer.host.remote = .codeHost ∧ sampleReviewer.model.client.remote = .model ∧
      ∃ outcome w', (sampleReviewer.run sampleEvent).outcome sampleWorld = (.ok outcome, w') ∧
        outcome.comments = sampleComments ∧
        w'.sent.filterMap Request.placed? = [(some "s", sampleComment "r")] := by
  obtain ⟨outcome, w', hrun⟩ := outcome_run_sampleWorld
  obtain ⟨pull, steps, qs, _, _, hpull, hsteps, hsent, hcomments, -, -, -, hplaced, -⟩ :=
    run_follows_steps (r := sampleReviewer) rfl rfl hrun
  obtain rfl : samplePullRequest = pull := Option.some.inj hpull
  have hall : outcome.comments = sampleComments :=
    hcomments.trans (comments_of_steps?_sampleWorld hsteps)
  refine ⟨rfl, rfl, outcome, w', hrun, hall, ?_⟩
  rw [hsent, List.filterMap_append, hplaced, hall, filter_sampleComments]
  rfl

/-- What is posted is not what the outcome tells of. -/
theorem run_sampleWorld_omits :
    ∃ outcome w', (sampleReviewer.run sampleEvent).outcome sampleWorld = (.ok outcome, w') ∧
      w'.sent.filterMap Request.placed? ≠ outcome.comments.map (sampleEvent.headSha, ·) := by
  obtain ⟨outcome, w', hrun⟩ := outcome_run_sampleWorld
  have hobeys := @obeys_steps sampleReviewer rfl rfl sampleEvent samplePullRequest rfl sampleWorld
  rw [hrun] at hobeys
  obtain ⟨steps, qs, _, _, hsteps, hsent, hcomments, -, -, -, hplaced⟩ := hobeys outcome rfl
  refine ⟨outcome, w', hrun, fun h => ?_⟩
  have hlength := congrArg List.length h
  have hnone : sampleWorld.traffic.sent = [] := rfl
  rw [show w'.sent = w'.traffic.sent from rfl, hsent, hnone, List.nil_append, hplaced, hcomments,
    comments_of_steps?_sampleWorld hsteps, filter_sampleComments] at hlength
  cases hlength

end Reviewer

end InlineReview
