import InlineReview.Proofs.Review.Endings
import InlineReview.Proofs.Review.Polls

/-!
# Cancelled reviews

Once its token is cancelled a run starts no linter, asks the model nothing and places no comment:
all that it may still send are the pages of the changed files that it is listing and the check run
that tells of its end.  A cancellation that comes before the last look at the token is the failure
of the review, which then publishes no summary of its own; one that comes later is not noticed.

* `Run.Guards.quiesces` — nothing that is guarded follows a cancellation.
* `Action.start_quiesces` — every action, from whatever it starts.
* `Reviewer.run_notices` — where a review notices a cancellation.
* `Reviewer.run_cancelledWorld` — a cancelled review that tells of no changed files.
-/

namespace InlineReview

/-! ## What follows a cancellation -/

/-- Does a request list changed files or publish a check run? -/
def Request.IsOpen (q : Request) : Prop :=
  q.remote = .codeHost ∧ (q.purpose = .listing ∨ ∃ run, q.purpose = .checkRun run)

/-- Is a deed guarded, or neither a command nor a request but for the changed files or a check
run? -/
def Deed.IsSafe (d : Deed) : Prop :=
  d.IsGuarded ∨ d.command? = none ∧ ∀ q ∈ d.request?, q.IsOpen

namespace Deed

variable {d : Deed}

theorem IsWrite.isSafe (h : d.IsWrite) : d.IsSafe := by
  cases d with
  | write entries => exact .inr ⟨rfl, by simp [request?]⟩
  | _ => exact h.elim

theorem IsOfReview.isSafe {l : Linter} (h : d.IsOfReview l) : d.IsSafe := by
  rcases h with ⟨q, rfl, hq, hpurpose⟩ | h | h | ⟨q, run, rfl, hq, hpurpose⟩
  · exact .inr ⟨rfl, fun p hp => Option.some.inj hp ▸ ⟨hq, .inl hpurpose⟩⟩
  · rcases h with rfl | ⟨timeout, q, rfl, -⟩
    · exact .inr ⟨rfl, by simp [request?]⟩
    · exact .inl trivial
  · rcases h with rfl | ⟨arguments, rfl⟩
    · exact .inr ⟨rfl, by simp [request?]⟩
    · exact .inl trivial
  · exact .inr ⟨rfl, fun p hp => Option.some.inj hp ▸ ⟨hq, .inr ⟨run, hpurpose⟩⟩⟩

end Deed

namespace Run

variable {α : Type}

/-- Does an action come to rest with a cancellation?  At whatever moment between its deeds the
token is cancelled, the reason stays, no command follows, and no request but for the changed files
and check runs. -/
def Quiesces (x : Run α) : Prop :=
  ∀ w, ∃ ds, (x.outcome w).2 = w.after ds ∧
    ∀ before after reason, ds = before ++ after →
      (w.after before).token.reason = some reason →
        (x.outcome w).2.token.reason = some reason ∧
          (x.outcome w).2.commands = (w.after before).commands ∧
          ∃ qs, (x.outcome w).2.sent = (w.after before).sent ++ qs ∧ ∀ q ∈ qs, q.IsOpen

/-- Nothing that is guarded follows a cancellation. -/
theorem Guards.quiesces {x : Run α} (hx : x.Guards Deed.IsSafe) : x.Quiesces := by
  intro w
  obtain ⟨ds, hafter, hguarded, hsafe⟩ := hx w
  refine ⟨ds, hafter, ?_⟩
  rintro before after reason rfl hreason
  have hnot := hguarded.not_isGuarded hreason
  have hopen : ∀ d ∈ after, d.command? = none ∧ ∀ q ∈ d.request?, q.IsOpen := by
    intro d hd
    have hkind : d.IsSafe := by
      rcases hsafe d (List.mem_append_right before hd) with hwrite | hallowed
      · exact hwrite.isSafe
      · exact hallowed
    exact hkind.resolve_left (hnot d hd)
  rw [hafter, World.after_append]
  refine ⟨?_, ?_, after.filterMap Deed.request?, World.sent_after _ _, fun q hq => ?_⟩
  · rw [World.token_after_of_cancelled hreason, hreason]
  · have hnone : after.filterMap Deed.command? = [] :=
      List.filterMap_eq_nil_iff.2 fun d hd => (hopen d hd).1
    rw [World.commands_after, hnone, List.append_nil]
  · obtain ⟨d, hd, hrequest⟩ := List.mem_filterMap.1 hq
    exact (hopen d hd).2 q hrequest

end Run

/-! ## Actions -/

theorem Reviewer.guards_run {r : Reviewer} (hhost : r.host.remote = .codeHost)
    (hmodel : r.model.client.remote = .model) (event : Event) :
    (r.run event).Guards Deed.IsSafe := by
  cases hpull : event.pullRequest with
  | none =>
    rw [run_eq_throw r hpull]
    exact ((Run.isMute_throw _).attends _).guards
  | some pull =>
    refine (does_run hhost hmodel hpull).imp fun w ds res h => ⟨h.1.guarded, fun d hd => ?_⟩
    exact (h.2.1 d hd).imp_right Deed.IsOfReview.isSafe

namespace Action

variable {r : Reviewer}

theorem guards_reportFailure (hhost : r.host.remote = .codeHost) (event : Event)
    (failure : Failure) : (reportFailure r event failure).Guards Deed.IsSafe := by
  have hsummary : (Reviewer.postSummary r.host r.settings event.headSha
      (.failed failure.message)).Guards Deed.IsSafe :=
    (Reviewer.attends_postSummary hhost _ _ _).guards.imp fun d hd =>
      Deed.IsOfReview.isSafe (l := r.linter) (.inr (.inr (.inr hd)))
  unfold reportFailure
  refine Run.Guards.bind ((Run.isMute_noteFailure _ _ _).attends _).guards fun _ => ?_
  exact hsummary.tryCatch fun second => ((Run.isMute_noteFailure _ _ _).attends _).guards

theorem guards_review (hhost : r.host.remote = .codeHost)
    (hmodel : r.model.client.remote = .model) (event : Event) :
    (review r event).Guards Deed.IsSafe := by
  rw [review]
  refine ((Reviewer.guards_run hhost hmodel event).map some).tryCatch fun failure => ?_
  exact (guards_reportFailure hhost event failure).bind fun _ =>
    ((Run.isMute_pure none).attends _).guards

theorem isMute_readEvent (s : Settings) : (readEvent s).IsMute := by
  rw [readEvent]
  exact Run.isMute_get.bind fun w => Run.isMute_ofExcept _ _

/-- What follows the clients of the settings, which are those of the host and of the model. -/
theorem guards_ofSettings_bind {α : Type} {s : Settings} {f : Reviewer → Run α}
    (hf : ∀ r : Reviewer, r.host.remote = .codeHost → r.model.client.remote = .model →
      (f r).Guards Deed.IsSafe) :
    (Run.ofExcept id (Reviewer.ofSettings s) >>= f).Guards Deed.IsSafe := by
  cases hreviewer : Reviewer.ofSettings s with
  | error e =>
    intro w
    exact ⟨[], rfl, trivial, by simp⟩
  | ok r =>
    obtain ⟨-, hhost, hmodel⟩ := Reviewer.parts_of_settings hreviewer
    rw [Run.ofExcept_ok_bind]
    exact hf r hhost hmodel

theorem guards_runReview (s : Settings) : (runReview s).Guards Deed.IsSafe := by
  rw [runReview]
  refine ((isMute_readEvent s).attends _).guards.bind fun event => ?_
  by_cases hpull : event.pullRequest.isNone = true
  · simp only [hpull, if_true]
    exact (((Run.isMute_note _ _ _).bind fun _ => Run.isMute_pure none).attends _).guards
  · simp only [hpull]
    exact guards_ofSettings_bind fun r hhost hmodel => guards_review hhost hmodel event

theorem guards_reviewOrFail (s : Settings) : (reviewOrFail s).Guards Deed.IsSafe := by
  rw [reviewOrFail]
  refine ((isMute_readEvent s).attends _).guards.bind fun event => ?_
  exact guards_ofSettings_bind fun r hhost hmodel => Reviewer.guards_run hhost hmodel event

theorem guards_start (env : Environment) : (start env).Guards Deed.IsSafe := by
  have hlisten : (modify fun w => { w with handlesSignals := true } : Run Unit).Guards
      Deed.IsSafe := by
    intro w
    refine ⟨[.listen], rfl, ⟨by simp [Deed.IsGuarded], trivial⟩, fun d hd => .inr (.inr ?_)⟩
    rw [List.mem_singleton.1 hd]
    exact ⟨rfl, by simp [Deed.request?]⟩
  rw [start]
  refine Run.Guards.bind ((Run.isMute_note _ _ _).attends _).guards fun _ => ?_
  rw [run]
  cases Settings.ofEnvironment env with
  | error fault =>
    exact (((Run.isMute_noteFailure _ _ _).bind fun _ => Run.isMute_pure 1).attends _).guards
  | ok s =>
    refine hlisten.bind fun _ => Run.Guards.tryCatch ?_ fun failure => ?_
    · exact (guards_runReview s).bind fun _ => ((Run.isMute_pure 0).attends _).guards
    · refine Run.Attends.guards (Run.IsMute.attends ?_ _)
      split
      · exact (Run.isMute_noteFailure _ _ _).bind fun _ => Run.isMute_pure 1
      · exact Run.isMute_throw failure

/-- Every action comes to rest with a cancellation, from the environment, from settings, or as a
review whose failure is not published; and the first reason of a token stays, whatever
cancellations follow. -/
theorem start_quiesces :
    (∀ env, (start env).Quiesces) ∧ (∀ s, (runReview s).Quiesces) ∧
      (∀ s, (reviewOrFail s).Quiesces) ∧
      ∀ (t : Token) (first : String) (later : List String),
        (later.foldl (fun t reason => t.cancel reason) (t.cancel first)).reason =
          some (t.reason.getD first) :=
  ⟨fun env => (guards_start env).quiesces, fun s => (guards_runReview s).quiesces,
    fun s => (guards_reviewOrFail s).quiesces, fun t first later =>
      Token.reason_cancelAll first later t⟩

end Action

/-! ## Where a review notices a cancellation -/

namespace Reviewer

variable {r : Reviewer} {w : World} {ds : List Deed} {res : Except Failure Outcome}

/-- Does a review publish a summary, or end with an outcome that has one? -/
def IsSummarised (ds : List Deed) (res : Except Failure Outcome) : Prop :=
  (∃ d ∈ ds, d.IsPublishing) ∨ ∃ outcome, res = .ok outcome ∧ outcome.summary? ≠ none

/-- Check runs are published last. -/
theorem GoesOn.split {files : List ChangedFile} {t : Traffic} (h : r.GoesOn files t ds res) :
    ∃ front closing, ds = front ++ closing ∧ (∀ d ∈ front, ¬ d.IsPublishing) ∧
      ∀ d ∈ closing, d.IsWrite ∨ d.IsPublishing := by
  cases h with
  | unsummarised hpublishes hres =>
    exact ⟨ds, [], (List.append_nil ds).symm, hpublishes, by simp⟩
  | idle hfiles hclosing hres => exact ⟨[], ds, rfl, by simp, hclosing⟩
  | @reviewed store results lint body closing _ hfiles hresults hlint hbody hrounds hclosing =>
    refine ⟨.poll :: (lint ++ body), closing, by simp, ?_, hclosing⟩
    have hpoll : ¬ Deed.poll.IsPublishing := Deed.IsReviewing.not_isPublishing (.inl rfl)
    have hlints := Deed.not_isPublishing_of_forall (fun _ => Deed.IsLinting.not_isPublishing)
      hlint.all
    have hbodies := Deed.not_isPublishing_of_forall (fun _ => Deed.IsReviewing.not_isPublishing)
      hbody
    exact List.forall_mem_cons.2 ⟨hpoll, List.forall_mem_append.2 ⟨hlints, hbodies⟩⟩

theorem not_isPublishing_of_listing {fetch : List Deed}
    (hfetch : ∀ d ∈ fetch, d.IsWrite ∨ d.IsListing) : ∀ d ∈ fetch, ¬ d.IsPublishing :=
  Deed.not_isPublishing_of_forall (fun _ => Deed.IsListing.not_isPublishing) hfetch

/-- Check runs are published last. -/
theorem Goes.split (h : r.Goes w ds res) :
    ∃ front closing, ds = front ++ closing ∧ (∀ d ∈ front, ¬ d.IsPublishing) ∧
      ∀ d ∈ closing, d.IsWrite ∨ d.IsPublishing := by
  cases h with
  | unlisted e hfetch =>
    exact ⟨ds, [], (List.append_nil ds).symm, not_isPublishing_of_listing hfetch, by simp⟩
  | @listed fetch rest _ files hfetch hfiles hrest =>
    obtain ⟨front, closing, rfl, hfront, hclosing⟩ := hrest.split
    refine ⟨fetch ++ front, closing, by simp, ?_, hclosing⟩
    exact List.forall_mem_append.2 ⟨not_isPublishing_of_listing hfetch, hfront⟩

/-- Nothing is published by a review that does nothing but write after a deed that neither writes
nor publishes. -/
theorem Goes.not_isPublishing (h : r.Goes w ds res) {before after : List Deed} {d : Deed}
    (hds : ds = before ++ d :: after) (hwrites : ∀ e ∈ after, e.IsWrite) (hd : ¬ d.IsWrite)
    (hd' : ¬ d.IsPublishing) : ∀ e ∈ ds, ¬ e.IsPublishing := by
  obtain ⟨front, closing, hsplit, hfront, hclosing⟩ := h.split
  have hmem : d ∉ closing := fun hmem => (hclosing d hmem).elim hd hd'
  -- The deed is none of the closing ones, so that these come after it and are nothing but entries.
  have hlater : ∀ e ∈ closing, e.IsWrite := by
    rcases List.append_eq_append_iff.1 (hsplit.symm.trans hds) with
      ⟨middle, -, hmiddle⟩ | ⟨middle, -, hmiddle⟩
    · exact absurd (by rw [hmiddle]; simp) hmem
    · cases middle with
      | nil =>
        rw [List.nil_append] at hmiddle
        exact absurd (by rw [← hmiddle]; simp) hmem
      | cons e middle =>
        obtain ⟨-, rfl⟩ := List.cons.inj hmiddle
        exact fun e he => hwrites e (List.mem_append_right middle he)
  rw [hsplit]
  exact List.forall_mem_append.2 ⟨hfront, fun e he => (hlater e he).not_isPublishing⟩

/-- What the deeds of a review tell of a cancellation. -/
structure Notices (r : Reviewer) (w : World) (ds : List Deed) (res : Except Failure Outcome) :
    Prop where
  /-- One that comes before a look at the token is the failure, and nothing is published. -/
  polled : ∀ before middle after reason, ds = before ++ (middle ++ .poll :: after) →
    (w.after before).token.reason = some reason →
      res = .error (.cancelled (w.after before).token.reasonText) ∧ ∀ d ∈ ds, ¬ d.IsPublishing
  /-- One that overtakes a reply is the failure too. -/
  overtaken : ∀ before timeout q after, ds = before ++ .ask timeout q :: after →
    ((w.after before).race timeout q).1 = .cancellation →
      (∃ reason, res = .error (.cancelled reason)) ∧ ∀ d ∈ ds, ¬ d.IsPublishing
  /-- A review with a summary has looked at the token before the linter and before each finding in a
  changed file, if there is a changed file, and otherwise never. -/
  looks : IsSummarised ds res →
    ∃ fetch rest files, ds = fetch ++ rest ∧ (∀ d ∈ fetch, d.IsWrite ∨ d.IsListing) ∧
      changedFiles? r.settings.extensions w.hostReplies = some files ∧
      ((files = [] ∧ ∀ d ∈ rest, d.IsWrite ∨ d.IsPublishing) ∨
        files ≠ [] ∧ ∃ store results lint body closing,
          r.linter.resultsOf? (files.map (·.filename)) w.files w.nextLintRun =
            some (store, results) ∧
          rest = .poll :: (lint ++ (body ++ closing)) ∧ r.linter.Lints lint ∧
          (∀ d ∈ body, d.IsWrite ∨ d.IsReviewing) ∧
          InRounds (visited r.settings.workspace files results).length body ∧
          ∀ d ∈ closing, d.IsWrite ∨ d.IsPublishing)

theorem cancelled_of_stopReason? {reason : String} (h : Run.stopReason? res = some reason) :
    res = .error (.cancelled reason) := by
  cases res with
  | ok outcome => cases h
  | error e =>
    cases e with
    | cancelled text =>
      obtain rfl : text = reason := Option.some.inj h
      rfl
    | _ => cases h

theorem notices_of_goes (hheeds : Heeds (Run.stopReason? res) w ds) (hgoes : r.Goes w ds res) :
    r.Notices w ds res where
  polled := by
    rintro before middle after reason rfl hreason
    obtain ⟨hstopped, hwrites⟩ := hheeds.stopped_of_poll hreason
    refine ⟨cancelled_of_stopReason? hstopped, ?_⟩
    refine hgoes.not_isPublishing (List.append_assoc before middle _).symm hwrites ?_ ?_
    · simp [Deed.IsWrite]
    · exact Deed.IsReviewing.not_isPublishing (.inl rfl)
  overtaken := by
    rintro before timeout q after rfl hrace
    have hnotices := hheeds.split.2 ((Deed.ask timeout q).done (w.after before)).token.reasonText
    rw [Deed.stops?, if_pos hrace] at hnotices
    obtain ⟨hstopped, hwrites⟩ := hnotices rfl
    refine ⟨⟨_, cancelled_of_stopReason? hstopped⟩, ?_⟩
    refine hgoes.not_isPublishing rfl hwrites (by simp [Deed.IsWrite]) ?_
    rintro ⟨p, run, hp, -⟩
    cases hp
  looks := by
    intro hsummarised
    have hsummary : (∀ d ∈ ds, ¬ d.IsPublishing) →
        ¬ ∀ outcome, res = .ok outcome → outcome.summary? = none := by
      intro hpublishes hres
      rcases hsummarised with ⟨d, hd, hpublishing⟩ | ⟨outcome, houtcome, hne⟩
      · exact hpublishes d hd hpublishing
      · exact hne (hres outcome houtcome)
    cases hgoes with
    | unlisted e hfetch =>
      have hnone := hsummary (not_isPublishing_of_listing hfetch)
      have hfails : ∀ outcome, (.error e : Except Failure Outcome) = .ok outcome →
          outcome.summary? = none := by
        intro outcome houtcome
        cases houtcome
      exact absurd hfails hnone
    | @listed fetch rest _ files hfetch hfiles hrest =>
      refine ⟨fetch, rest, files, rfl, hfetch, hfiles, ?_⟩
      cases hrest with
      | unsummarised hpublishes hres =>
        have hall := List.forall_mem_append.2 ⟨not_isPublishing_of_listing hfetch, hpublishes⟩
        exact absurd hres (hsummary hall)
      | idle hempty hclosing hres => exact .inl ⟨hempty, hclosing⟩
      | reviewed hne hresults hlint hbody hrounds hclosing hres =>
        exact .inr ⟨hne, _, _, _, _, _, hresults, rfl, hlint, hbody, hrounds, hclosing⟩

/-- Where a review notices a cancellation. -/
theorem run_notices (hhost : r.host.remote = .codeHost) (hmodel : r.model.client.remote = .model)
    {event : Event} {pull : PullRequest} (hpull : event.pullRequest = some pull) (w : World) :
    ∃ ds, ((r.run event).outcome w).2 = w.after ds ∧
      r.Notices w ds ((r.run event).outcome w).1 := by
  obtain ⟨ds, hafter, hheeds, -, hgoes⟩ := does_run hhost hmodel hpull w
  exact ⟨ds, hafter, notices_of_goes hheeds hgoes⟩

/-- A world in which the run is cancelled while the host lists a changed file. -/
def interruptedWorld : World where
  hostReplies := [{
    interrupt := { cancel := some "stop" }
    result := .ok (Response.success
      "[\x7b\"filename\":\"a.js\",\"patch\":\"@@ -0,0 +1 @@\\n+x\"\x7d]") }]
  sharesToken := true

/-- The review notices it before it starts the linter. -/
theorem run_interruptedWorld :
    sampleReviewer.host.remote = .codeHost ∧ sampleReviewer.model.client.remote = .model ∧
      sampleEvent.pullRequest = some samplePullRequest ∧
      Run.stopReason? ((sampleReviewer.run sampleEvent).outcome interruptedWorld).1 =
        some "stop" ∧
      ((sampleReviewer.run sampleEvent).outcome interruptedWorld).2.commands = [] ∧
      ∃ ds, ((sampleReviewer.run sampleEvent).outcome interruptedWorld).2 =
          interruptedWorld.after ds ∧
        sampleReviewer.Notices interruptedWorld ds
          ((sampleReviewer.run sampleEvent).outcome interruptedWorld).1 :=
  ⟨rfl, rfl, rfl, by decide +kernel, by decide +kernel,
    run_notices rfl rfl rfl interruptedWorld⟩

/-! ## A cancellation that is not noticed -/

/-- A world in which the run is cancelled while the host lists no changed files. -/
def cancelledWorld : World where
  hostReplies := [{ interrupt := { cancel := some "stop" }, result := .ok (Response.success "[]") }]
  sharesToken := true

/-- The review tells of no changed files, although it was cancelled with its first request. -/
theorem run_cancelledWorld :
    let ended := (sampleReviewer.run sampleEvent).outcome cancelledWorld
    ended.1.toOption = some .noFilesChanged ∧
      ended.2.sent.map Request.purpose =
        [.listing, .checkRun (summaryRun sampleSettings "s" .noFiles).published] ∧
      ended.2.sent.head?.map (fun q => (cancelledWorld.receive q).token.reason) =
        some (some "stop") := by
  decide +kernel

end Reviewer

end InlineReview
