import InlineReview.Proofs.Review.Deeds
import InlineReview.Proofs.Review.Endings
import InlineReview.Proofs.Run.Mirrored

/-!
# What the replies to comments decide

Nothing.  Whether a comment is placed, refused or late is written into the journal alone, so that
two runs that differ only in the replies to their comments send the same requests and end alike.

* `Reviewer.mirrors_postComment` — placing a comment does the same whatever comes back.
* `Reviewer.mirrors_run` — so does a review.
* `Action.runReview_isolated` — and so does a whole run.
-/

namespace InlineReview

/-- Does a request place a comment? -/
def Request.PlacesComment (q : Request) : Prop := q.placed?.isSome = true

instance : DecidablePred Request.PlacesComment :=
  fun q => inferInstanceAs (Decidable (q.placed?.isSome = true))

/-! ## Requests that place no comment -/

theorem Request.not_placesComment {q : Request} (h : q.purpose.placed? = none) :
    ¬ q.PlacesComment := by
  simp [PlacesComment, placed?, h]

namespace CodeHost

variable {c : Client} (hremote : c.remote = .codeHost) (fullName : String) (pull : Int)

include hremote

theorem mirrors_listFrom (fuel page : Nat) :
    (listFrom c fullName pull fuel page).Mirrors Request.PlacesComment := by
  induction fuel generalizing page with
  | zero => exact Run.mirrors_pure []
  | succ fuel ih =>
    refine Run.Mirrors.bind (Call.mirrors_perform fun q h => ?_) fun entries => ?_
    · exact Request.not_placesComment (by rw [(purpose_listing hremote h).2]; rfl)
    · split
      · exact Run.mirrors_pure entries
      · exact (ih (page + 1)).bind fun others => Run.mirrors_pure (entries ++ others)

/-- More fuel than there are replies makes no difference. -/
theorem outcome_listFrom_fuel {fuel larger : Nat} (hle : fuel ≤ larger) :
    ∀ {page : Nat} {w : World}, w.hostReplies.length < fuel →
      (listFrom c fullName pull larger page).outcome w =
        (listFrom c fullName pull fuel page).outcome w := by
  induction fuel generalizing larger with
  | zero => exact fun h => absurd h (Nat.not_lt_zero _)
  | succ fuel ih =>
    intro page w hfuel
    obtain ⟨larger, rfl⟩ := Nat.exists_eq_add_one.2 (Nat.lt_of_lt_of_le (Nat.succ_pos _) hle)
    rw [listFrom, listFrom]
    rcases h : (listPage c fullName pull page).perform.outcome w with ⟨e | entries, w₁⟩
    · rw [Run.outcome_bind_error h, Run.outcome_bind_error h]
    rw [Run.outcome_bind_ok h, Run.outcome_bind_ok h]
    by_cases hshort : entries.length < pageSize
    · rw [if_pos hshort, if_pos hshort]
    -- a full page has used one of the replies
    have hleft : w₁.hostReplies.length < fuel := by
      have hpage := (listPage c fullName pull page).obeys_perform w
      rw [h] at hpage
      rcases hpage with ⟨_, _, hres, _⟩ | ⟨q, hrequest, hres, htraffic⟩
      · cases hres
      · have hnext := (short_or_lt_of_page hremote hrequest hres.symm hfuel).resolve_left hshort
        rwa [← htraffic] at hnext
    have hrest := @ih larger (Nat.le_of_succ_le_succ hle) (page + 1) w₁ hleft
    rw [if_neg hshort, if_neg hshort, Run.outcome_bind, Run.outcome_bind, hrest]

theorem mirrors_listFiles : (listFiles c fullName pull).Mirrors Request.PlacesComment := by
  refine Run.mirrors_get_bind (fun w => mirrors_listFrom hremote fullName pull _ 1)
    fun w v _ => ?_
  -- fuel for the replies of both worlds
  let fuel := max (w.hostReplies.length + 1) (v.hostReplies.length + 1)
  refine ⟨listFrom c fullName pull fuel 1, mirrors_listFrom hremote fullName pull fuel 1, ?_, ?_⟩
  · exact outcome_listFrom_fuel hremote fullName pull (Nat.le_max_left _ _) (Nat.lt_succ_self _)
  · exact outcome_listFrom_fuel hremote fullName pull (Nat.le_max_right _ _) (Nat.lt_succ_self _)

end CodeHost

namespace Linter

variable {free : Request → Prop}

theorem alike_lint {w v : World} (h : w.Alike v) (l : Linter) (arguments : List String) :
    (w.lint l arguments).Alike (v.lint l arguments) := by
  have hlaunch : (w.launch l arguments).Alike (v.launch l arguments) := by
    obtain ⟨huntimed, _, _, _, rfl⟩ := h
    refine World.Alike.interrupt (?_ : World.Alike _ _) _
    exact ⟨huntimed, _, _, _, rfl⟩
  have hnext : v.nextLintRun = w.nextLintRun := by
    obtain ⟨-, _, _, _, rfl⟩ := h
    rfl
  rw [World.lint, World.lint, hnext]
  split
  · obtain ⟨huntimed, _, _, _, hsame⟩ := hlaunch
    rw [hsame]
    exact ⟨huntimed, _, _, _, rfl⟩
  · exact hlaunch

theorem mirrors_start (l : Linter) (arguments : List String) :
    (l.start arguments).Mirrors free := by
  refine Run.mirrors_of_silent (fun w => (l.obeys_start arguments w).1.sends) fun w v halike => ?_
  rw [outcome_start, outcome_start]
  refine ⟨?_, alike_lint halike l arguments⟩
  obtain ⟨-, _, _, _, rfl⟩ := halike
  rfl

theorem mirrors_noteStatus (ending : Ending) : (noteStatus ending).Mirrors free := by
  unfold noteStatus
  split
  · refine (Run.mirrors_note _ _ _).bind fun _ => ?_
    split
    · exact Run.mirrors_note _ _ _
    · exact Run.mirrors_pure ()
  · exact Run.mirrors_pure ()

theorem mirrors_readReport (l : Linter) : l.readReport.Mirrors free := by
  refine Run.mirrors_reading (fun w => ?_) fun w v halike => by rw [halike.files_eq]
  refine (Run.mirrors_ofExcept _ _).bind fun report => ?_
  refine (Run.mirrors_ofNoting _ _).bind fun results => ?_
  exact (Run.mirrors_note _ _ _).bind fun _ => Run.mirrors_pure results

theorem mirrors_removeReport (l : Linter) : l.removeReport.Mirrors free := by
  refine Run.mirrors_of_silent (fun w => ?_) fun w v halike => ?_
  · rw [outcome_removeReport]
    cases l.removalFault? w.files with
    | some failure => exact .refl _
    | none =>
      refine ⟨(List.append_nil _).symm, ?_⟩
      funext service
      cases service <;> rfl
  · rw [outcome_removeReport, outcome_removeReport, halike.files_eq]
    cases l.removalFault? w.files with
    | some failure => exact ⟨rfl, halike⟩
    | none =>
      obtain ⟨huntimed, _, _, _, rfl⟩ := halike
      exact ⟨rfl, huntimed, _, _, _, rfl⟩

theorem mirrors_run (l : Linter) (files : List String) : (l.run files).Mirrors free := by
  unfold run
  dsimp only
  split
  · exact (Run.mirrors_note _ _ _).bind fun _ => Run.mirrors_pure []
  · refine l.mirrors_removeReport.bind fun _ => (Run.mirrors_note _ _ _).bind fun _ => ?_
    refine (Run.Mirrors.timed _ _ (l.mirrors_start _)).bind fun ending => ?_
    exact (mirrors_noteStatus ending).bind fun _ => l.mirrors_readReport

end Linter

/-! ## Questions and comments -/

theorem Model.mirrors_suggestFix {m : Model} (hremote : m.client.remote = .model)
    (message code : String) : (m.suggestFix true message code).Mirrors Request.PlacesComment := by
  have hasked : (Run.within true (some m.timeout) (m.question message code).start).Mirrors
      Request.PlacesComment := by
    refine Call.mirrors_within _ fun q h => ?_
    exact Request.not_placesComment (by rw [(purpose_question hremote h).2]; rfl)
  unfold suggestFix
  refine Run.Mirrors.bind ((((hasked.timed _ _).map some).tryCatch fun failure => ?_))
    fun answer => ?_
  · split
    · exact (Run.mirrors_note _ _ _).bind fun _ => Run.mirrors_pure none
    · exact Run.mirrors_throw failure
  · split
    · exact Run.mirrors_pure []
    · split
      · exact Run.mirrors_throw _
      · exact Run.mirrors_pure _
      · exact (Run.mirrors_note _ _ _).bind fun _ =>
          (Run.mirrors_note _ _ _).bind fun _ => Run.mirrors_pure []

namespace Reviewer

variable {r : Reviewer}

theorem mirrors_excuseComment {free : Request → Prop} (r : Reviewer) (c : InlineComment)
    (failure : Failure) : (r.excuseComment c failure).Mirrors free := by
  unfold excuseComment
  split
  · exact Run.mirrors_throw _
  all_goals exact Run.mirrors_noteFailure _ _ _

/-- Placing a comment does the same if the reply to it is the same. -/
theorem mirrors_postComment_same (r : Reviewer) (pull : Int) (commit : Option String)
    (c : InlineComment) : (r.postComment pull commit c).Mirrors fun _ => False :=
  ((Call.mirrors_within _ fun _ _ => not_false).bind fun _ => Run.mirrors_note _ _ _).tryCatch
    fun failure => r.mirrors_excuseComment c failure

section Comment

variable {pull : Int} {commit : Option String} {c : InlineComment} {q : Request} {w w₁ : World}
  {res : Except Failure Json}

theorem outcome_postComment_ok {v : Json}
    (h : (Run.within true (some (.real r.settings.timeout))
      (r.commentCall pull commit c).start).outcome w = (.ok v, w₁)) :
    ∃ entries, (r.postComment pull commit c).outcome w =
      (.ok (), { w₁ with journal := w₁.journal ++ entries }) :=
  ⟨_, Run.outcome_tryCatch_ok (Run.outcome_bind_ok h)⟩

theorem outcome_postComment_error {e : Failure}
    (h : (Run.within true (some (.real r.settings.timeout))
      (r.commentCall pull commit c).start).outcome w = (.error e, w₁)) :
    (r.postComment pull commit c).outcome w = (r.excuseComment c e).outcome w₁ :=
  Run.outcome_tryCatch_error (Run.outcome_bind_error h)

theorem traffic_postComment
    (h : (Run.within true (some (.real r.settings.timeout))
      (r.commentCall pull commit c).start).outcome w = (res, w₁)) :
    ((r.postComment pull commit c).outcome w).2.traffic = w₁.traffic := by
  cases res with
  | ok v =>
    obtain ⟨_, hpost⟩ := outcome_postComment_ok h
    rw [hpost]
    rfl
  | error e =>
    rw [outcome_postComment_error h]
    exact (r.obeys_excuseComment c e w₁).1

/-- A comment that is not cancelled is written about, and the review goes on. -/
theorem outcome_postComment (hres : CodeHost.IsUncancelled res)
    (h : (Run.within true (some (.real r.settings.timeout))
      (r.commentCall pull commit c).start).outcome w = (res, w₁)) :
    ∃ entries, (r.postComment pull commit c).outcome w =
      (.ok (), { w₁ with journal := w₁.journal ++ entries }) := by
  cases res with
  | ok v => exact outcome_postComment_ok h
  | error e =>
    have huncancelled := hres e rfl
    rw [outcome_postComment_error h]
    cases e with
    | cancelled reason => cases huncancelled
    | _ => exact ⟨_, rfl⟩

/-- A comment is not cancelled by a reply that does not interrupt. -/
theorem isUncancelled_awaited (timeout : Option Seconds) (huntimed : w.token.alarms = [])
    (hlive : w.token.isCancelled = false) (hcalm : (w.replyFor q).interrupt = {}) :
    CodeHost.IsUncancelled ((r.commentCall pull commit c).awaited timeout q w) := by
  have htoken : (w.receive q).token = w.token := by
    rw [World.receive, hcalm]
    cases q.remote <;> rfl
  have hrace : w.race timeout q =
      Race.finish (w.replyFor q).delay (timeout.bind Seconds.toRat?) none := by
    rw [World.race_of_untimed huntimed, htoken, hlive]
    rfl
  rw [Call.awaited, hrace]
  rcases Race.finish_cases (w.replyFor q).delay (timeout.bind Seconds.toRat?) none with
    ⟨hfinish, -⟩ | ⟨hfinish, -⟩ | ⟨-, hnone⟩
  · rw [hfinish]
    exact CodeHost.isUncancelled_resultOf q _
  · rw [hfinish]
    intro e h
    obtain rfl := Except.error.inj h
    rfl
  · cases hnone

/-- Placing a comment does the same whatever comes back, if that does not interrupt the run. -/
theorem mirrors_postComment (r : Reviewer) (pull : Int) (commit : Option String)
    (c : InlineComment) : (r.postComment pull commit c).Mirrors Request.PlacesComment := by
  intro w
  -- the comment is refused before it is sent, by the token or for itself
  have hrefused : ∀ e, (∀ v : World, v.token = w.token →
      (Run.within true (some (.real r.settings.timeout))
        (r.commentCall pull commit c).start).outcome v = (.error e, v)) →
      ∃ qs, w.traffic.Sends qs ((r.postComment pull commit c).outcome w).2.traffic ∧
        ∀ v, w.Alike v → w.traffic.Matches Request.PlacesComment qs v.traffic →
          (r.postComment pull commit c).Repeats qs w v := by
    intro e h
    have hexcused : ∀ v : World, v.token = w.token → (r.postComment pull commit c).outcome v =
        (r.excuseComment c e).outcome v := fun v hv => outcome_postComment_error (h v hv)
    exact (r.mirrors_excuseComment c e).resume (.refl _) (hexcused w rfl)
      fun v halike _ => ⟨v, hexcused v halike.token_eq, halike, .refl _⟩
  rcases (r.commentCall pull commit c).within_cases (some (.real r.settings.timeout)) w.token with
    ⟨-, h⟩ | ⟨-, e, h⟩ | ⟨hlive, q, hrequest, h⟩
  · exact hrefused _ h
  · exact hrefused e h
  have hsends : ∀ v : World, v.token = w.token →
      v.traffic.Sends [q] ((r.postComment pull commit c).outcome v).2.traffic := by
    intro v hv
    rw [traffic_postComment (h v hv)]
    exact Call.sends_receive v q _
  refine ⟨[q], hsends w rfl, fun v halike hmatches => ?_⟩
  rcases Traffic.matches_singleton.1 hmatches with hsame | ⟨-, hw, hv⟩
  · obtain ⟨qs, hsends', hrepeats⟩ := r.mirrors_postComment_same pull commit c w
    obtain rfl : qs = [q] := hsends'.unique (hsends w rfl)
    exact hrepeats v halike (Traffic.matches_singleton.2 (.inl hsame))
  · rw [World.replyFor_traffic] at hw hv
    have huntimed : v.token.alarms = [] := by rw [halike.token_eq, halike.untimed]
    have hlive' : v.token.isCancelled = false := by rw [halike.token_eq, hlive]
    obtain ⟨_, hpost⟩ := outcome_postComment
      (isUncancelled_awaited _ halike.untimed hlive hw) (h w rfl)
    obtain ⟨_, hpost'⟩ := outcome_postComment
      (isUncancelled_awaited _ huntimed hlive' hv) (h v halike.token_eq)
    have hafter := hsends v halike.token_eq
    rw [hpost'] at hafter
    exact .of_outcome hpost hpost' ((halike.ask _ (hv.trans hw.symm)).write _ _) hafter

end Comment

/-! ## Reviews -/

theorem mirrors_reviewFinding (hmodel : r.model.client.remote = .model) (pull : Int)
    (commit : Option String) (path : String) (file : ChangedFile) (finding : Finding) :
    (r.reviewFinding pull commit path file finding).Mirrors Request.PlacesComment := by
  unfold reviewFinding
  dsimp only
  split
  · exact (Run.mirrors_note _ _ _).bind fun _ => Run.mirrors_pure none
  · refine Run.mirrors_reading (fun w => ?_) fun w v halike => by rw [halike.files_eq]
    refine (Run.mirrors_ofExcept _ _).bind fun code => ?_
    refine (Model.mirrors_suggestFix hmodel _ code).bind fun suggestions => ?_
    split
    · exact (Run.mirrors_note _ _ _).bind fun _ => Run.mirrors_pure none
    · exact (r.mirrors_postComment pull commit _).bind fun _ => Run.mirrors_pure _

theorem mirrors_reviewFindings (hmodel : r.model.client.remote = .model) (pull : Int)
    (commit : Option String) (path : String) (file : ChangedFile) (findings : List Finding) :
    (r.reviewFindings pull commit path file findings).Mirrors Request.PlacesComment := by
  induction findings with
  | nil => exact Run.mirrors_pure []
  | cons finding rest ih =>
    refine Run.mirrors_checkCancelled.bind fun _ => ?_
    refine (mirrors_reviewFinding hmodel pull commit path file finding).bind fun comment => ?_
    exact ih.bind fun comments => Run.mirrors_pure _

theorem mirrors_reviewResults (hmodel : r.model.client.remote = .model) (pull : Int)
    (commit : Option String) (files : List ChangedFile) (results : List LintResult) :
    (r.reviewResults pull commit files results).Mirrors Request.PlacesComment := by
  induction results with
  | nil => exact Run.mirrors_pure []
  | cons result rest ih =>
    refine (Run.mirrors_ofExcept _ _).bind fun path => ?_
    have hrest := fun comments : List InlineComment =>
      ih.bind fun others => Run.mirrors_pure (comments ++ others)
    dsimp only
    split
    · exact (Run.mirrors_note _ _ _).bind fun _ => (Run.mirrors_pure []).bind hrest
    · exact (mirrors_reviewFindings hmodel pull commit path _ result.findings).bind hrest

theorem mirrors_postSummary {host : Client} (hhost : host.remote = .codeHost) (s : Settings)
    (commit : Option String) (summary : Summary) :
    (postSummary host s commit summary).Mirrors Request.PlacesComment := by
  unfold postSummary
  split
  · exact Run.mirrors_note _ _ _
  · exact Run.mirrors_note _ _ _
  · refine (Call.mirrors_perform fun q h => ?_).bind fun _ => Run.mirrors_pure ()
    exact Request.not_placesComment (by rw [(purpose_checkRun hhost h).2]; rfl)

theorem mirrors_fetchChangedFiles {host : Client} (hhost : host.remote = .codeHost)
    (fullName : String) (pull : Int) (extensions : List String) :
    (fetchChangedFiles host fullName pull extensions).Mirrors Request.PlacesComment := by
  refine (Run.mirrors_note _ _ _).bind fun _ => Run.Mirrors.bind ?_ fun entries => ?_
  · refine ((CodeHost.mirrors_listFiles hhost fullName pull).timed _ _).tryCatch fun failure => ?_
    split
    · exact (Run.mirrors_note _ _ _).bind fun _ => Run.mirrors_throw _
    · exact Run.mirrors_throw _
  · exact (Run.mirrors_ofNoting _ _).bind fun files =>
      (Run.mirrors_note _ _ _).bind fun _ => Run.mirrors_pure files

theorem mirrors_reviewFiles (hhost : r.host.remote = .codeHost)
    (hmodel : r.model.client.remote = .model) (pull : Int) (commit : Option String)
    (files : List ChangedFile) :
    (r.reviewFiles pull commit files).Mirrors Request.PlacesComment := by
  refine Run.mirrors_checkCancelled.bind fun _ => ?_
  refine ((r.linter.mirrors_run _).timed _ _).bind fun results => ?_
  refine (mirrors_reviewResults hmodel pull commit files results).bind fun comments => ?_
  split
  · exact (mirrors_postSummary hhost _ commit _).bind fun _ => Run.mirrors_pure _
  · exact (Run.mirrors_note _ _ _).bind fun _ => Run.mirrors_pure _

/-- A review does the same whatever comes back for its comments. -/
theorem mirrors_run (hhost : r.host.remote = .codeHost) (hmodel : r.model.client.remote = .model)
    (event : Event) : (r.run event).Mirrors Request.PlacesComment := by
  unfold run
  split
  · exact Run.mirrors_throw _
  · refine (Run.mirrors_note _ _ _).bind fun _ => ?_
    refine ((mirrors_fetchChangedFiles hhost _ _ _).timed _ _).bind fun files => ?_
    split
    · exact (Run.mirrors_note _ _ _).bind fun _ =>
        (mirrors_postSummary hhost _ _ _).bind fun _ => Run.mirrors_pure _
    · exact mirrors_reviewFiles hhost hmodel _ _ files

end Reviewer

namespace Action

variable {r : Reviewer}

theorem mirrors_reportFailure (hhost : r.host.remote = .codeHost) (event : Event)
    (failure : Failure) : (reportFailure r event failure).Mirrors Request.PlacesComment := by
  refine (Run.mirrors_noteFailure _ _ _).bind fun _ => ?_
  exact (Reviewer.mirrors_postSummary hhost _ _ _).tryCatch fun second =>
    Run.mirrors_noteFailure _ _ _

theorem mirrors_review (hhost : r.host.remote = .codeHost)
    (hmodel : r.model.client.remote = .model) (event : Event) :
    (review r event).Mirrors Request.PlacesComment := by
  refine ((Reviewer.mirrors_run hhost hmodel event).map some).tryCatch fun failure => ?_
  exact (mirrors_reportFailure hhost event failure).bind fun _ => Run.mirrors_pure none

theorem mirrors_runReview (s : Settings) : (runReview s).Mirrors Request.PlacesComment := by
  have hread : (readEvent s).Mirrors Request.PlacesComment :=
    Run.mirrors_reading (fun w => Run.mirrors_ofExcept _ _) fun w v halike => by
      rw [halike.files_eq]
  refine hread.bind fun event => ?_
  split
  · exact (Run.mirrors_note _ _ _).bind fun _ => Run.mirrors_pure none
  · cases hreviewer : Reviewer.ofSettings s with
    | error e => exact Run.mirrors_throw e
    | ok r =>
      obtain ⟨-, hhost, hmodel⟩ := Reviewer.parts_of_settings hreviewer
      rw [Run.ofExcept_ok_bind]
      exact mirrors_review hhost hmodel event

/-- Two runs in worlds alike, in which the replies differ only for the comments of the first run and
do not interrupt there, send the same requests, start the same commands and end alike. -/
theorem runReview_isolated {s : Settings} {w v : World} {qs : List Request} (halike : w.Alike v)
    (hsent : ((runReview s).outcome w).2.sent = w.sent ++ qs)
    (hmatches : w.traffic.Matches Request.PlacesComment qs v.traffic) :
    ((runReview s).outcome v).1 = ((runReview s).outcome w).1 ∧
      ((runReview s).outcome v).2.sent = ((runReview s).outcome w).2.sent ∧
      ((runReview s).outcome v).2.commands = ((runReview s).outcome w).2.commands := by
  obtain ⟨ps, hsends, hrepeats⟩ := mirrors_runReview s w
  obtain rfl : ps = qs := List.append_cancel_left (hsends.sent_eq.symm.trans hsent)
  obtain ⟨hresult, halike', -⟩ := hrepeats v halike hmatches
  exact ⟨hresult, halike'.sent_eq, halike'.commands_eq⟩

/-! ## Other replies in place of those to comments -/

/-- A world with a comment to place, which is accepted. -/
def commentedWorld : World :=
  { Reviewer.sampleWorld with
    files := (brokenWorld "s").files ++ Reviewer.sampleWorld.files
    hostReplies := Reviewer.sampleWorld.hostReplies ++
      [{ result := .ok { Response.success "\x7b\x7d" with status := 201 } }] }

/-- A reply that comes after the deadline and tells of a lost connection. -/
def lateReply : Reply where
  delay := 1000
  result := .error { kind := "ReadError", message := "" }

/-- The same world if no comment is heard of: `qs` are the requests that the run sends. -/
def unheardWorld (qs : List Request) : World :=
  { commentedWorld with
    hostReplies := Traffic.hostRepliesBut Request.PlacesComment lateReply
      (commentedWorld.traffic.exchanges qs) }

/-- The run is the same there. -/
theorem runReview_unheardWorld :
    ∃ qs, commentedWorld.Alike (unheardWorld qs) ∧
      ((runReview Reviewer.sampleSettings).outcome commentedWorld).2.sent =
        commentedWorld.sent ++ qs ∧
      commentedWorld.traffic.Matches Request.PlacesComment qs (unheardWorld qs).traffic ∧
      ((runReview Reviewer.sampleSettings).outcome (unheardWorld qs)).1 =
        ((runReview Reviewer.sampleSettings).outcome commentedWorld).1 ∧
      ((runReview Reviewer.sampleSettings).outcome (unheardWorld qs)).2.sent =
        ((runReview Reviewer.sampleSettings).outcome commentedWorld).2.sent ∧
      ((runReview Reviewer.sampleSettings).outcome (unheardWorld qs)).2.commands =
        ((runReview Reviewer.sampleSettings).outcome commentedWorld).2.commands := by
  have hnone : commentedWorld.sent = [] := rfl
  obtain ⟨qs, hsent⟩ : ∃ qs, ((runReview Reviewer.sampleSettings).outcome commentedWorld).2.sent =
      commentedWorld.sent ++ qs := ⟨_, by rw [hnone, List.nil_append]⟩
  have halike : commentedWorld.Alike (unheardWorld qs) := ⟨rfl, _, _, _, rfl⟩
  have hmatches : commentedWorld.traffic.Matches Request.PlacesComment qs
      (unheardWorld qs).traffic := by
    refine Traffic.matches_hostRepliesBut rfl (Traffic.forall_mem_exchanges
      (P := fun reply => reply.interrupt = {}) ?_ ?_ ?_)
    · rintro (_ | _) <;> rfl
    · intro reply hreply
      rcases List.mem_append.1 hreply with h | h <;>
        rw [List.mem_singleton.1 h]
    · intro reply hreply
      cases hreply
  exact ⟨qs, halike, hsent, hmatches, runReview_isolated halike hsent hmatches⟩

end Action

end InlineReview
