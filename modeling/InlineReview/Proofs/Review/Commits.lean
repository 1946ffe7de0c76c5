import InlineReview.Proofs.Review.Escapes
import InlineReview.Proofs.Review.Skipping

/-!
# The commits that are named

Whatever a review sends, a check run names the commit of the event, which has a name then, and a
comment names what the event has for its commit, be it a name, an empty name or nothing.  So what is
posted names a commit exactly if the event does or no comment is placed.

* `Request.IsOn` — the requests of a review of a commit.
* `Reviewer.staysOn_run` — every request of a review is one of them.
* `Action.runReview_names_iff` — when everything that is posted names a commit.
* `Action.runReview_bareWorld` — a comment that names none.
-/

namespace InlineReview

open Text

/-! ## Requests on a commit -/

/-- Is a request one of a review of a commit, which may have no name? -/
inductive Request.IsOn (commit : Option String) (q : Request) : Prop
  /-- A question to the model. -/
  | question (hq : q.remote = .model)
  /-- A page of the changed files. -/
  | listing (hpurpose : q.purpose = .listing)
  /-- A comment, which is placed on the commit whether this has a name or not. -/
  | comment {c : InlineComment} (hpurpose : q.purpose = .comment commit c)
  /-- A check run, which is published on a commit with a name only. -/
  | checkRun {run : CodeHost.CheckRun} {sha : String} (hcommit : commit = some sha) (hsha : sha ≠ "")
      (hrun : run.commit = some sha) (hpurpose : q.purpose = .checkRun run)

/-- Is the request of a deed one of a review of a commit, if it has a request? -/
def Deed.IsOn (commit : Option String) (d : Deed) : Prop := ∀ q, d.request? = some q → q.IsOn commit

variable {commit : Option String}

theorem Deed.IsListing.isOn {d : Deed} (h : d.IsListing) : d.IsOn commit := by
  obtain ⟨q, rfl, -, hpurpose⟩ := h
  intro q' hq'
  obtain rfl := Option.some.inj hq'
  exact .listing hpurpose

theorem Deed.IsLinting.isOn {d : Deed} {l : Linter} (h : d.IsLinting l) : d.IsOn commit := by
  rcases h with rfl | ⟨arguments, rfl⟩
  · intro q hq
    cases hq
  · intro q hq
    cases hq

theorem Deed.isOn_poll : Deed.poll.IsOn commit := by
  intro q hq
  cases hq

theorem Deed.Concerns.isOn {d : Deed} {path : String} {findings : List Finding}
    (h : d.Concerns commit path findings) : d.IsOn commit := by
  rcases h with rfl | ⟨timeout, q, rfl, hconcerns⟩
  · exact Deed.isOn_poll
  · intro q' hq'
    obtain rfl := Option.some.inj hq'
    cases hconcerns with
    | question hq => exact .question hq
    | comment _ _ hpurpose => exact .comment hpurpose

/-! ## Reviews on a commit -/

/-- Are the requests of an action those of a review of a commit? -/
def Run.StaysOn {α : Type} (commit : Option String) (x : Run α) : Prop :=
  x.Keeps (fun _ => True) (Deed.IsOn commit)

namespace Reviewer

variable {r : Reviewer}

theorem staysOn_postSummary {host : Client} (hhost : host.remote = .codeHost) (s : Settings)
    (commit : Option String) (summary : Summary) :
    (postSummary host s commit summary).StaysOn commit := by
  refine (keeps_postSummary hhost s commit summary ?_).imp (fun _ _ => trivial) fun _ h => h
  intro q run sha hcommit hsha hrun _ hpurpose q' hq'
  obtain rfl := Option.some.inj hq'
  exact .checkRun hcommit hsha hrun hpurpose

theorem staysOn_fetchChangedFiles (hhost : r.host.remote = .codeHost) (fullName : String)
    (pull : Int) (extensions : List String) :
    (fetchChangedFiles r.host fullName pull extensions).StaysOn commit :=
  (keeps_fetchChangedFiles hhost (fun _ h => h.isOn) fullName pull extensions).imp
    (fun _ _ => trivial) fun _ h => h

theorem staysOn_linter (l : Linter) (files : List String) : (l.run files).StaysOn commit := by
  have hrun : (l.run files).Keeps Entry.TellsElse (Deed.IsLinting l) :=
    l.keeps_run (.inl rfl) (.inr ⟨_, rfl⟩)
  exact hrun.imp (fun _ _ => trivial) fun _ h => h.isOn

theorem staysOn_reviewUnder (hhost : r.host.remote = .codeHost)
    (hmodel : r.model.client.remote = .model) (pull : Int) (commit : Option String)
    (files : List ChangedFile) (path : String) (findings : List Finding) :
    (r.reviewUnder pull commit files path findings).StaysOn commit := by
  unfold reviewUnder
  cases fileNamed? files path with
  | none => exact (Run.keeps_note trivial).bind fun _ => Run.keeps_pure []
  | some file =>
    exact (keeps_reviewFindings hhost hmodel pull commit path file findings).imp
      (fun _ _ => trivial) fun _ h => h.isOn

theorem staysOn_reviewResults (hhost : r.host.remote = .codeHost)
    (hmodel : r.model.client.remote = .model) (pull : Int) (commit : Option String)
    (files : List ChangedFile) (results : List LintResult) :
    (r.reviewResults pull commit files results).StaysOn commit := by
  induction results with
  | nil => exact Run.keeps_pure []
  | cons result rest ih =>
    rw [reviewResults_cons]
    refine Run.Keeps.bind (Run.keeps_ofExcept _ _) fun path => ?_
    refine (staysOn_reviewUnder hhost hmodel pull commit files path _).bind fun comments => ?_
    exact ih.bind fun others => Run.keeps_pure (comments ++ others)

theorem staysOn_reviewFiles (hhost : r.host.remote = .codeHost)
    (hmodel : r.model.client.remote = .model) (pull : Int) (commit : Option String)
    (files : List ChangedFile) : (r.reviewFiles pull commit files).StaysOn commit := by
  have hlint : (Run.timed (pullContext r.settings.repository pull) "run_style_checker"
      (r.linter.run (files.map (·.filename)))).StaysOn commit :=
    (staysOn_linter r.linter _).timed trivial trivial fun _ => trivial
  rw [reviewFiles]
  refine (Run.keeps_checkCancelled Deed.isOn_poll).bind fun _ => ?_
  refine hlint.bind fun results => ?_
  refine (staysOn_reviewResults hhost hmodel pull commit files results).bind fun comments => ?_
  split
  · exact (staysOn_postSummary hhost _ commit _).bind fun _ => Run.keeps_pure _
  · exact (Run.keeps_note trivial).bind fun _ => Run.keeps_pure _

/-- Every request of a review is on the commit of the event. -/
theorem staysOn_run (hhost : r.host.remote = .codeHost) (hmodel : r.model.client.remote = .model)
    (event : Event) : (r.run event).StaysOn event.headSha := by
  unfold run
  cases event.pullRequest with
  | none => exact Run.keeps_throw _
  | some pull =>
    have hfetch : (Run.timed (pullContext r.settings.repository pull.number)
        "fetch_changed_files" (fetchChangedFiles r.host r.settings.repository pull.number
          r.settings.extensions)).StaysOn event.headSha :=
      (staysOn_fetchChangedFiles hhost _ _ _).timed trivial trivial fun _ => trivial
    refine (Run.keeps_note trivial).bind fun _ => hfetch.bind fun files => ?_
    split
    · refine (Run.keeps_note trivial).bind fun _ => ?_
      exact (staysOn_postSummary hhost _ event.headSha _).bind fun _ => Run.keeps_pure _
    · exact staysOn_reviewFiles hhost hmodel pull.number event.headSha files

end Reviewer

namespace Action

variable {r : Reviewer}

theorem staysOn_reportFailure (hhost : r.host.remote = .codeHost) (event : Event)
    (failure : Failure) : (reportFailure r event failure).StaysOn event.headSha := by
  have hnote : ∀ context m error, (Run.noteFailure context m error).StaysOn event.headSha :=
    fun context m error =>
      (Run.keeps_noteFailure context m error).imp (fun _ _ => trivial) fun _ h => h
  unfold reportFailure
  refine (hnote _ _ _).bind fun _ => ?_
  exact (Reviewer.staysOn_postSummary hhost _ event.headSha _).tryCatch fun second => hnote _ _ _

theorem staysOn_review (hhost : r.host.remote = .codeHost) (hmodel : r.model.client.remote = .model)
    (event : Event) : (review r event).StaysOn event.headSha :=
  ((Reviewer.staysOn_run hhost hmodel event).map some).tryCatch fun failure =>
    (staysOn_reportFailure hhost event failure).bind fun _ => Run.keeps_pure none

/-- Whatever the event, the requests of an action are on its commit. -/
theorem sent_runReview {s : Settings} {event : Event} {w : World}
    (hevent : Event.load w.files s.eventPath = .ok event) :
    ∃ qs, ((runReview s).outcome w).2.sent = w.sent ++ qs ∧ ∀ q ∈ qs, q.IsOn event.headSha := by
  by_cases hpull : event.pullRequest.isSome = true
  · cases hreviewer : Reviewer.ofSettings s with
    | error failure =>
      rw [outcome_runReview_unmade hreviewer hevent hpull]
      exact ⟨[], by simp, by simp⟩
    | ok r =>
      obtain ⟨-, hhost, hmodel⟩ := Reviewer.parts_of_settings hreviewer
      obtain ⟨ds, hds, hwithin⟩ := staysOn_review hhost hmodel event w
      rw [outcome_runReview hreviewer hevent hpull, hds, World.sent_after]
      refine ⟨ds.filterMap Deed.request?, rfl, fun q hq => ?_⟩
      obtain ⟨d, hd, hon⟩ := Deed.forall_requests hwithin q hq
      exact hon q hd
  · obtain ⟨w', hended, hsent⟩ := outcome_runReview_idle hevent (by simpa using hpull)
    rw [hended]
    exact ⟨[], by simpa using hsent, by simp⟩

end Action

/-! ## What is posted -/

/-- Is a request posted to the code host? -/
def Request.IsPosted (q : Request) : Prop := q.remote = .codeHost ∧ q.method = .post

/-- The commit that a purpose names. -/
def Purpose.commit? : Purpose → Option String
  | .comment commit _ => commit
  | .checkRun run => run.commit
  | _ => none

/-- Does an event name its commit? -/
def Event.HasCommit (event : Event) : Prop := ∃ sha, event.headSha = some sha ∧ sha ≠ ""

/-- Does a request name the commit of an event, and this with a name that is not empty? -/
def Request.Names (event : Event) (q : Request) : Prop :=
  ∃ sha, event.headSha = some sha ∧ sha ≠ "" ∧ q.purpose.commit? = some sha

theorem Purpose.eq_of_placed? {p : Purpose} {c : InlineComment} (h : p.placed? = some (commit, c)) :
    p = .comment commit c := by
  cases p with
  | comment commit' c' =>
    obtain ⟨rfl, rfl⟩ := Prod.mk.inj (Option.some.inj h)
    rfl
  | _ => cases h

theorem Request.isPosted_of_comment {q : Request} {c : InlineComment}
    (h : q.purpose = .comment commit c) : q.IsPosted := by
  unfold Request.purpose at h
  split at h
  · cases h
  · exact ⟨‹_›, ‹_›⟩
  · rename_i v _ _ _
    cases hquestion : Purpose.questionOf? v <;> simp [hquestion] at h
  · cases h

theorem Purpose.ofPosted_ne_listing (v : Json) : Purpose.ofPosted v ≠ .listing := by
  unfold Purpose.ofPosted
  split <;> simp

theorem Request.not_isPosted_of_listing {q : Request} (h : q.purpose = .listing) :
    ¬ q.IsPosted := by
  rintro ⟨hremote, hmethod⟩
  unfold Request.purpose at h
  rw [hremote, hmethod] at h
  split at h
  · rename_i hget _
    cases hget
  · exact Purpose.ofPosted_ne_listing _ h
  · rename_i hmodel _ _
    cases hmodel
  · cases h

/-- What is posted on a commit is a comment on it, or a check run that names it. -/
theorem Request.IsOn.posted {event : Event} {q : Request} (h : q.IsOn event.headSha)
    (hposted : q.IsPosted) :
    (∃ c, q.purpose = .comment event.headSha c) ∨
      (∃ run, q.purpose = .checkRun run) ∧ q.Names event := by
  cases h with
  | question hq =>
    rw [hposted.1] at hq
    cases hq
  | listing hpurpose => exact absurd hposted (Request.not_isPosted_of_listing hpurpose)
  | comment hpurpose => exact .inl ⟨_, hpurpose⟩
  | checkRun hcommit hsha hrun hpurpose =>
    refine .inr ⟨⟨_, hpurpose⟩, _, hcommit, hsha, ?_⟩
    rw [hpurpose]
    exact hrun

namespace Action

/-- What an action posts is comments on what the event has for its commit and check runs that name
the commit.  All of it names the commit exactly if the event does or no comment is placed. -/
theorem runReview_names_iff {s : Settings} {event : Event} {w : World}
    (hevent : Event.load w.files s.eventPath = .ok event) :
    ∃ qs, ((runReview s).outcome w).2.sent = w.sent ++ qs ∧
      (∀ q ∈ qs, q.IsPosted → (∃ c, q.purpose = .comment event.headSha c) ∨
        (∃ run, q.purpose = .checkRun run) ∧ q.Names event) ∧
      ((∀ q ∈ qs, q.IsPosted → q.Names event) ↔
        event.HasCommit ∨ ∀ q ∈ qs, q.placed? = none) := by
  obtain ⟨qs, hsent, hon⟩ := sent_runReview hevent
  refine ⟨qs, hsent, fun q hq => (hon q hq).posted, ?_, ?_⟩
  · intro hnames
    by_cases hplaced : ∀ q ∈ qs, q.placed? = none
    · exact .inr hplaced
    · obtain ⟨q, hq, hsome⟩ : ∃ q ∈ qs, q.placed? ≠ none := by simpa using hplaced
      obtain ⟨⟨commit, c⟩, hplaces⟩ := Option.ne_none_iff_exists'.1 hsome
      have hposted := Request.isPosted_of_comment (Purpose.eq_of_placed? hplaces)
      obtain ⟨sha, hcommit, hsha, -⟩ := hnames q hq hposted
      exact .inl ⟨sha, hcommit, hsha⟩
  · rintro (⟨sha, hcommit, hsha⟩ | hplaced) q hq hposted
    · rcases (hon q hq).posted hposted with ⟨c, hpurpose⟩ | ⟨-, hnames⟩
      · refine ⟨sha, hcommit, hsha, ?_⟩
        rw [hpurpose]
        exact hcommit
      · exact hnames
    · rcases (hon q hq).posted hposted with ⟨c, hpurpose⟩ | ⟨-, hnames⟩
      · have hnone := hplaced q hq
        rw [Request.placed?, hpurpose] at hnone
        cases hnone
      · exact hnames

/-- On an event that names its commit everything does. -/
theorem runReview_brokenWorld_names :
    ∃ event, Event.load (brokenWorld "s").files Reviewer.sampleSettings.eventPath = .ok event ∧
      event.HasCommit ∧ ∃ qs,
        ((runReview Reviewer.sampleSettings).outcome (brokenWorld "s")).2.sent =
          (brokenWorld "s").sent ++ qs ∧ ∀ q ∈ qs, q.IsPosted → q.Names event := by
  obtain ⟨event, hevent, -, hsha⟩ := event_brokenWorld "s" "s" (by decide +kernel)
  have hcommit : event.HasCommit := ⟨"s", hsha, by decide⟩
  obtain ⟨qs, hsent, -, hnames⟩ := runReview_names_iff hevent
  exact ⟨event, hevent, hcommit, qs, hsent, hnames.2 (.inl hcommit)⟩

/-! ## An event without a commit -/

/-- A world with an event that has no commit, a changed file of one line and a report on it. -/
def bareWorld : World where
  files := [({ twoSlashes := false, components := ["e"] }, .content (Utf8.encode
      "\x7b\"pull_request\":\x7b\"number\":1\x7d\x7d".toList)),
    ({ twoSlashes := false, components := ["w", "a.js"] }, .content [0x78])]
  hostReplies := Reviewer.sampleWorld.hostReplies
  lintRuns := [{ report := some (Utf8.encode
    ("[\x7b\"filePath\":\"/w/a.js\",\"messages\":[\x7b\"line\":1,\"ruleId\":\"r\"\x7d]\x7d]"
      ).toList) }]

theorem traffic_bareWorld :
    bareWorld.traffic.isCalm = true ∧ bareWorld.traffic.modelReplies = [] ∧
      bareWorld.traffic.hostReplies.length = 1 :=
  ⟨by decide +kernel, rfl, rfl⟩

theorem event_bareWorld :
    ∃ event pull, Event.load bareWorld.files Reviewer.sampleSettings.eventPath = .ok event ∧
      event.pullRequest = some pull ∧ pull.number = 1 ∧ event.headSha = none := by
  have hparts : (Event.load bareWorld.files Reviewer.sampleSettings.eventPath).toOption.map
      (fun event => (event.pullRequest.map (·.number), event.headSha)) = some (some 1, none) := by
    decide +kernel
  cases hload : Event.load bareWorld.files Reviewer.sampleSettings.eventPath with
  | error fault =>
    rw [hload] at hparts
    cases hparts
  | ok event =>
    rw [hload] at hparts
    obtain ⟨hnumber, hsha⟩ := Prod.mk.inj (Option.some.inj hparts)
    obtain ⟨pull, hpull, hone⟩ := Option.map_eq_some_iff.1 hnumber
    exact ⟨event, pull, rfl, hpull, hone, hsha⟩

theorem sends_sampleSettings {r : Reviewer}
    (hreviewer : Reviewer.ofSettings Reviewer.sampleSettings = .ok r) :
    r.model.IsAddressed ∧ Run.isUncountable (some r.model.timeout) = false ∧
      (∀ k ≤ 1, CodeHost.IsListable r.host r.settings.repository 1 (k + 1)) ∧
      r.isPostable 1 none (Reviewer.sampleComment "r") = true := by
  have hsends : (Reviewer.ofSettings Reviewer.sampleSettings).toOption.any (fun r =>
      (r.model.client.request .post s!"/models/{r.model.name}:generateContent" none none
        ).toOption.any (fun bare => Base.hasKind bare.url.toList) &&
      ! Run.isUncountable (some r.model.timeout) &&
      (CodeHost.listPage r.host r.settings.repository 1 1).request.toOption.any
        (fun q => Base.hasKind q.url.toList) &&
      (CodeHost.listPage r.host r.settings.repository 1 2).request.toOption.any
        (fun q => Base.hasKind q.url.toList) &&
      r.isPostable 1 none (Reviewer.sampleComment "r")) = true := by decide +kernel
  rw [hreviewer] at hsends
  simp only [Except.toOption, Option.any_some, Bool.and_eq_true, Bool.not_eq_true'] at hsends
  obtain ⟨⟨⟨⟨haddressed, hcountable⟩, hfirst⟩, hsecond⟩, hpostable⟩ := hsends
  refine ⟨Reviewer.isAddressed_iff.2 haddressed, hcountable, ?_, hpostable⟩
  intro k hk
  rw [Reviewer.isListable_iff]
  rcases Nat.le_one_iff_eq_zero_or_eq_one.1 hk with rfl | rfl
  · exact hfirst
  · exact hsecond

theorem remarks?_bareWorld {r : Reviewer}
    (hreviewer : Reviewer.ofSettings Reviewer.sampleSettings = .ok r) :
    ∃ xs, r.remarks? bareWorld.traffic = some xs ∧
      (∀ x ∈ xs, IsWritable x.finding.message.text.toList ∧ IsWritable x.code.toList) ∧
      (r.steps [] xs).filterMap Step.comment = [Reviewer.sampleComment "r"] := by
  have hfound : (Reviewer.ofSettings Reviewer.sampleSettings).toOption.bind (fun r =>
      (r.remarks? bareWorld.traffic).map fun xs =>
        (xs.map (fun x => (x.finding.message.text, x.code)),
          (r.steps [] xs).filterMap Step.comment)) =
      some ([("", "x")], [Reviewer.sampleComment "r"]) := by decide +kernel
  rw [hreviewer] at hfound
  simp only [Except.toOption, Option.bind_some] at hfound
  obtain ⟨xs, hxs, hpair⟩ := Option.map_eq_some_iff.1 hfound
  obtain ⟨htexts, hcomments⟩ := Prod.mk.inj hpair
  refine ⟨xs, hxs, ?_, hcomments⟩
  intro x hx
  have hmem : (x.finding.message.text, x.code) ∈ [("", "x")] := by
    rw [← htexts]
    exact List.mem_map_of_mem hx
  obtain ⟨hmessage, hcode⟩ : x.finding.message.text = "" ∧ x.code = "x" := by simpa using hmem
  rw [hmessage, hcode]
  decide

/-- A comment is placed on no commit. -/
theorem runReview_bareWorld :
    ∃ event, Event.load bareWorld.files Reviewer.sampleSettings.eventPath = .ok event ∧
      event.headSha = none ∧
      ∃ q ∈ ((runReview Reviewer.sampleSettings).outcome bareWorld).2.sent,
        q.IsPosted ∧ q.purpose = .comment none (Reviewer.sampleComment "r") ∧ ¬ q.Names event := by
  obtain ⟨event, pull, hevent, hpull, hnumber, hsha⟩ := event_bareWorld
  obtain ⟨r, -, -, hreviewer, -⟩ := reviewer_sample
  obtain ⟨haddressed, hcountable, hlistable, hpostable⟩ := sends_sampleSettings hreviewer
  obtain ⟨xs, hxs, hwritable, hcomments⟩ := remarks?_bareWorld hreviewer
  obtain ⟨-, hhost, hmodel⟩ := Reviewer.parts_of_settings hreviewer
  have hfound : (r.steps [] xs).filterMap Step.comment ≠ [] := by
    rw [hcomments]
    simp
  rw [← hnumber] at hlistable hpostable
  obtain ⟨hcalm, hreplies, hlength⟩ := traffic_bareWorld
  obtain ⟨outcome, w', hrun⟩ := Reviewer.exists_outcome_of_silent hhost hmodel hpull hcalm hreplies
    haddressed hcountable (by rw [hlength]; exact hlistable) hxs hwritable hfound
  have hobeys := Reviewer.obeys_steps hhost hmodel hpull bareWorld
  rw [hrun] at hobeys
  obtain ⟨steps, qs, -, -, hsteps, hsent, htold, -, -, -, hplaced⟩ := hobeys outcome rfl
  have hall : steps.filterMap Step.comment = [Reviewer.sampleComment "r"] := by
    rw [Reviewer.steps?, hxs] at hsteps
    rw [← Option.some.inj hsteps]
    exact hcomments
  have hmem : (none, Reviewer.sampleComment "r") ∈ qs.filterMap Request.placed? := by
    rw [hplaced, htold, hall, hsha]
    simp [hpostable]
  obtain ⟨q, hq, hplaces⟩ := List.mem_filterMap.1 hmem
  have hpurpose := Purpose.eq_of_placed? hplaces
  have hran : (runReview Reviewer.sampleSettings).outcome bareWorld = (.ok (some outcome), w') := by
    rw [outcome_runReview hreviewer hevent (by rw [hpull]; rfl), outcome_review_ok hrun]
  refine ⟨event, hevent, hsha, q, ?_, Request.isPosted_of_comment hpurpose, hpurpose, ?_⟩
  · rw [hran]
    have hsent' : w'.sent = bareWorld.sent ++ qs := hsent
    rw [hsent']
    exact List.mem_append_right _ hq
  · rintro ⟨sha, hcommit, -⟩
    rw [hsha] at hcommit
    cases hcommit

end Action

end InlineReview
