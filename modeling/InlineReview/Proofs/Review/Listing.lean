import InlineReview.Proofs.Review.ChangedFiles
import InlineReview.Proofs.Review.Published

/-!
# Lists that are fetched whole

The first reply that is no full page decides how a list ends.  If it is a page, the entries of all
pages are listed in their order; if it is not, listing fails, and what the pages before it hold is
not listed at all.  Either way the pages up to that reply are asked for, each of them once, and no
page after it.  A review whose list fails has not come to the linter, the model or a comment, so
that nothing is ever told of half a list.

* `CodeHost.outcome_listFiles_whole` — a list comes whole or not at all.
* `Reviewer.obeys_run_unlisted` — a review fails with its list.
* `Action.review_listsWhole` — what has been done when a list is there, and when it is not.
-/

namespace InlineReview

namespace CodeHost

/-! ## Pages -/

/-- Is a reply a page with these entries?  It tells of no error, and its body is a list. -/
def IsPage (reply : Reply) (entries : List Json) : Prop :=
  ∃ response, reply.result = .ok response ∧ response.status < 400 ∧
    response.json = .ok (.arr entries)

/-- Is a reply a page that has as many entries as one can have? -/
def IsFullPage (reply : Reply) : Prop := ∃ entries, IsPage reply entries ∧ pageSize ≤ entries.length

theorem pageOf_eq_ok_iff {response : Response} {entries : List Json} :
    pageOf response = .ok entries ↔ response.json = .ok (.arr entries) := by
  rw [pageOf, bodyOf]
  rcases response.json with fault | v
  · constructor <;> intro h <;> cases h
  · cases v with
    | arr elements => constructor <;> intro h <;> cases h <;> rfl
    | _ => constructor <;> intro h <;> cases h

theorem entriesIn?_eq_some_iff {reply : Reply} {entries : List Json} :
    entriesIn? reply = some entries ↔ IsPage reply entries := by
  constructor
  · intro h
    unfold entriesIn? at h
    cases hresult : reply.result with
    | error fault => simp [hresult] at h
    | ok response =>
      cases herror : response.isError with
      | true => simp [hresult, herror] at h
      | false =>
        simp only [hresult, herror, Bool.false_eq_true, if_false] at h
        exact ⟨response, hresult, isError_eq_false.1 herror,
          pageOf_eq_ok_iff.1 (Run.toOption_eq_some.1 h)⟩
  · rintro ⟨response, hresult, hstatus, hjson⟩
    exact entriesIn?_of_json hresult (isError_eq_false.2 hstatus) hjson

theorem entriesIn?_eq_none_iff {reply : Reply} :
    entriesIn? reply = none ↔ ∀ entries, ¬ IsPage reply entries := by
  simp only [← entriesIn?_eq_some_iff]
  exact Option.eq_none_iff_forall_ne_some

theorem exists_entries_of_full {front : List Reply} (h : ∀ reply ∈ front, IsFullPage reply) :
    ∃ pages, List.Forall₂ (fun reply entries => entriesIn? reply = some entries ∧
      ¬ entries.length < pageSize) front pages := by
  induction front with
  | nil => exact ⟨[], .nil⟩
  | cons reply front ih =>
    obtain ⟨entries, hpage, hfull⟩ := h reply (by simp)
    obtain ⟨pages, hpages⟩ := ih fun r hr => h r (by simp [hr])
    exact ⟨entries :: pages,
      .cons ⟨entriesIn?_eq_some_iff.2 hpage, Nat.not_lt.2 hfull⟩ hpages⟩

/-! ## The end of a list -/

/-- What listing gives of full pages and the reply after them: the entries of all pages, or a
failure if that reply is no page. -/
inductive AllOrNothing (front : List Reply) (reply : Reply) : Except Failure (List Json) → Prop
  | listed {pages : List (List Json)} (hpages : List.Forall₂ IsPage (front ++ [reply]) pages) :
      AllOrNothing front reply (.ok pages.flatten)
  | refused (failure : Failure) (hreply : ∀ entries, ¬ IsPage reply entries) :
      AllOrNothing front reply (.error failure)

theorem exists_isPage_of_mem {replies : List Reply} {pages : List (List Json)} {reply : Reply}
    (h : List.Forall₂ IsPage replies pages) (hmem : reply ∈ replies) :
    ∃ entries, IsPage reply entries := by
  induction h with
  | nil => cases hmem
  | @cons _ entries _ _ hpage _ ih =>
    rcases List.mem_cons.1 hmem with rfl | hmem
    · exact ⟨entries, hpage⟩
    · exact ih hmem

theorem AllOrNothing.exists_error {front : List Reply} {reply : Reply}
    {res : Except Failure (List Json)} (h : AllOrNothing front reply res)
    (hreply : ∀ entries, ¬ IsPage reply entries) : ∃ failure, res = .error failure := by
  cases h with
  | refused failure => exact ⟨failure, rfl⟩
  | listed hpages =>
    obtain ⟨entries, hpage⟩ := exists_isPage_of_mem hpages
      (List.mem_append_right front (List.mem_singleton_self reply))
    exact absurd hpage (hreply entries)

section Lists

variable {c : Client} {fullName : String} {pull : Int} {front rest : List Reply} {reply : Reply}
  {w : World}

/-- A reply that is no page ends the list with a failure. -/
theorem outcome_listFrom_refused {page : Nat} (fuel : Nat) (hremote : c.remote = .codeHost)
    (hlistable : IsListable c fullName pull page) (hreplies : w.hostReplies = reply :: rest)
    (hreply : ∀ entries, ¬ IsPage reply entries) :
    ∃ q w' failure, AsksFor c fullName pull page q ∧ w'.sent = w.sent ++ [q] ∧
      (listFrom c fullName pull (fuel + 1) page).outcome w = (.error failure, w') := by
  obtain ⟨q, hrequest, -⟩ := hlistable
  have hread : w.replyFor q = reply := by
    simp [World.replyFor, World.replies, (purpose_listing hremote hrequest).1, hreplies]
  have hperform := Call.outcome_perform_ok hrequest w
  rw [hread] at hperform
  cases hresult : (listPage c fullName pull page).resultOf q reply with
  | ok entries =>
    have hpage := (agrees_listPage hrequest reply).told_of_ok entries hresult
    exact absurd (entriesIn?_eq_some_iff.1 hpage) (hreply entries)
  | error failure =>
    rw [hresult] at hperform
    refine ⟨q, (w.receive q).pass reply.delay, failure, asksFor_of_request hrequest,
      w.sent_receive q, ?_⟩
    rw [listFrom, Run.outcome_bind_error hperform]

/-- A reply that is no full page is the last one that is asked for. -/
theorem outcome_listFrom_last {page : Nat} (fuel : Nat) (hremote : c.remote = .codeHost)
    (hlistable : IsListable c fullName pull page) (hreplies : w.hostReplies = reply :: rest)
    (hlast : ¬ IsFullPage reply) :
    ∃ q w' res, AsksFor c fullName pull page q ∧ w'.sent = w.sent ++ [q] ∧
      (listFrom c fullName pull (fuel + 1) page).outcome w = (res, w') ∧
      AllOrNothing [] reply res := by
  cases hentries : entriesIn? reply with
  | none =>
    have hreply := entriesIn?_eq_none_iff.1 hentries
    obtain ⟨q, w', failure, hasks, hsent, hlist⟩ :=
      outcome_listFrom_refused fuel hremote hlistable hreplies hreply
    exact ⟨q, w', _, hasks, hsent, hlist, .refused failure hreply⟩
  | some entries =>
    have hpage := entriesIn?_eq_some_iff.1 hentries
    have hshort : entries.length < pageSize :=
      Nat.lt_of_not_le fun hfull => hlast ⟨entries, hpage, hfull⟩
    obtain ⟨q, w', hasks, hsent, hlist⟩ :=
      outcome_listFrom_short fuel hremote hlistable hreplies hentries hshort
    have hlisted : AllOrNothing [] reply (.ok [entries].flatten) := .listed (.cons hpage .nil)
    rw [List.flatten_singleton] at hlisted
    exact ⟨q, w', _, hasks, hsent, hlist, hlisted⟩

/-- What follows full pages comes whole or not at all, and they come with it. -/
theorem AllOrNothing.after {pages : List (List Json)} {res : Except Failure (List Json)}
    (hfront : List.Forall₂ IsPage front pages) (h : AllOrNothing [] reply res) :
    AllOrNothing front reply (res.map (pages.flatten ++ ·)) := by
  cases h with
  | listed hpages =>
    rw [Except.map, ← List.flatten_append]
    exact .listed (List.rel_append hfront hpages)
  | refused failure hreply => exact .refused failure hreply

/-- The pages up to the first reply that is no full page are asked for and no other one, and what
they hold is listed as a whole or not at all. -/
theorem outcome_listFiles_whole (hremote : c.remote = .codeHost)
    (hreplies : w.hostReplies = front ++ reply :: rest)
    (hfront : ∀ full ∈ front, IsFullPage full) (hlast : ¬ IsFullPage reply)
    (hlistable : ∀ k ≤ front.length, IsListable c fullName pull (k + 1)) :
    ∃ qs w' res, List.Forall₂ (AsksFor c fullName pull) (List.range' 1 (front.length + 1)) qs ∧
      w'.sent = w.sent ++ qs ∧ (listFiles c fullName pull).outcome w = (res, w') ∧
      AllOrNothing front reply res := by
  obtain ⟨pages, hpages⟩ := exists_entries_of_full hfront
  have hfuel : w.hostReplies.length + 1 = rest.length + 1 + 1 + front.length := by
    rw [hreplies, List.length_append, List.length_cons]
    omega
  obtain ⟨qs, w₁, hasks, hsent, hleft, hlist⟩ := outcome_listFrom_pages (rest.length + 1 + 1)
    hremote hpages 1 hreplies fun k hk => by
      rw [Nat.add_comm]
      exact hlistable k (Nat.le_of_lt hk)
  have hpage : IsListable c fullName pull (1 + front.length) := by
    rw [Nat.add_comm]
    exact hlistable _ (Nat.le_refl _)
  obtain ⟨q, w', res, hask, hthen, hend, hwhole⟩ :=
    outcome_listFrom_last (rest.length + 1) hremote hpage hleft hlast
  refine ⟨qs ++ [q], w', _, ?_, ?_, ?_, hwhole.after (hpages.imp fun _ _ h =>
    entriesIn?_eq_some_iff.1 h.1)⟩
  · rw [List.range'_1_concat]
    exact List.rel_append hasks (.cons hask .nil)
  · rw [hthen, hsent, List.append_assoc]
  · rw [listFiles, Run.outcome_bind_ok (Run.outcome_get w), hfuel, hlist, Run.outcome_map, hend]

/-- Listing does nothing else. -/
theorem obeys_listFiles_whole (rest : List Reply) (hremote : c.remote = .codeHost)
    (hfront : ∀ full ∈ front, IsFullPage full) (hlast : ¬ IsFullPage reply)
    (hlistable : ∀ k ≤ front.length, IsListable c fullName pull (k + 1)) :
    (listFiles c fullName pull).Obeys fun t res t' => t.hostReplies = front ++ reply :: rest →
      (∃ qs, List.Forall₂ (AsksFor c fullName pull) (List.range' 1 (front.length + 1)) qs ∧
        t' = t.sendAll qs) ∧ AllOrNothing front reply res := by
  intro w hreplies
  obtain ⟨qs, w', res, hasks, hsent, hlist, hwhole⟩ :=
    outcome_listFiles_whole hremote hreplies hfront hlast hlistable
  obtain ⟨ps, ⟨htraffic, -⟩, -⟩ := obeys_listFiles hremote fullName pull w
  rw [hlist] at htraffic ⊢
  -- the requests that make up the traffic are those that name the pages, since both are all that
  -- is sent
  have hps : w.sent ++ ps = w.sent ++ qs := by
    rw [← hsent]
    exact ((congrArg Traffic.sent htraffic).trans (w.traffic.sent_sendAll ps)).symm
  exact ⟨⟨qs, hasks, List.append_cancel_left hps ▸ htraffic⟩, hwhole⟩

end Lists

end CodeHost

/-! ## Reviews -/

section Reviews

variable {r : Reviewer} {event : Event} {pull : PullRequest} {front rest : List Reply}
  {reply : Reply} {w : World}

/-- A review without a list fails, and has asked for pages and done nothing else. -/
theorem Reviewer.obeys_run_unlisted (hhost : r.host.remote = .codeHost)
    (hpull : event.pullRequest = some pull) (hfront : ∀ full ∈ front, CodeHost.IsFullPage full)
    (hreply : ∀ entries, ¬ CodeHost.IsPage reply entries)
    (hlistable : ∀ k ≤ front.length,
      CodeHost.IsListable r.host r.settings.repository pull.number (k + 1)) :
    (r.run event).Obeys fun t res t' => t.hostReplies = front ++ reply :: rest →
      ∃ failure qs, res = .error failure ∧
        List.Forall₂ (CodeHost.AsksFor r.host r.settings.repository pull.number)
          (List.range' 1 (front.length + 1)) qs ∧ t' = t.sendAll qs := by
  have hlast : ¬ CodeHost.IsFullPage reply := fun ⟨entries, hpage, _⟩ => hreply entries hpage
  have hlists := CodeHost.obeys_listFiles_whole rest hhost hfront hlast hlistable
  have hfetch := Run.obeys_timed (pullContext r.settings.repository pull.number)
    "fetch_changed_files" (obeys_fetching hlists r.settings.extensions)
  simp only [run, hpull]
  refine Run.Obeys.after ((hfetch.bind fun _ => Run.obeys_any _).imp ?_) (Run.isQuiet_note _ _ _)
  rintro t res t' (⟨failure, hfetched, rfl⟩ | ⟨files, t₁, hfetched, -⟩) hreplies
  · rcases hfetched with ⟨_, hlisted, -⟩ | ⟨entries, hlisted, -⟩
    · obtain ⟨⟨qs, hasks, htraffic⟩, -⟩ := hlisted hreplies
      exact ⟨failure, qs, rfl, hasks, htraffic⟩
    · obtain ⟨_, hfailed⟩ := (hlisted hreplies).2.exists_error hreply
      cases hfailed
  · rcases hfetched with ⟨_, -, hfailed⟩ | ⟨entries, hlisted, -⟩
    · cases hfailed
    · obtain ⟨_, hfailed⟩ := (hlisted hreplies).2.exists_error hreply
      cases hfailed

/-- The pages up to the first reply that is no full page are asked for and no other one, and what
they hold is listed as a whole or not at all.  If it is not listed, the review of the pull request
fails and has sent nothing else, and it ends without an outcome, after the check run that tells of
the failure. -/
theorem Action.review_listsWhole (hhost : r.host.remote = .codeHost)
    (hpull : event.pullRequest = some pull) (hreplies : w.hostReplies = front ++ reply :: rest)
    (hfront : ∀ full ∈ front, CodeHost.IsFullPage full) (hlast : ¬ CodeHost.IsFullPage reply)
    (hlistable : ∀ k ≤ front.length,
      CodeHost.IsListable r.host r.settings.repository pull.number (k + 1)) :
    (∃ qs w' res, List.Forall₂ (CodeHost.AsksFor r.host r.settings.repository pull.number)
        (List.range' 1 (front.length + 1)) qs ∧ w'.sent = w.sent ++ qs ∧
      (CodeHost.listFiles r.host r.settings.repository pull.number).outcome w = (res, w') ∧
      CodeHost.AllOrNothing front reply res) ∧
    ((∀ entries, ¬ CodeHost.IsPage reply entries) →
      ∃ qs failure w₁ closing w', List.Forall₂
          (CodeHost.AsksFor r.host r.settings.repository pull.number)
          (List.range' 1 (front.length + 1)) qs ∧
        (r.run event).outcome w = (.error failure, w₁) ∧ w₁.sent = w.sent ++ qs ∧
        w₁.commands = w.commands ∧
        (review r event).outcome w = (.ok none, w') ∧ w'.sent = w.sent ++ qs ++ closing ∧
        w'.commands = w.commands ∧ closing.length ≤ 1 ∧
        ∀ q ∈ closing, ∃ run, q.purpose = .checkRun run) := by
  refine ⟨CodeHost.outcome_listFiles_whole hhost hreplies hfront hlast hlistable,
    fun hreply => ?_⟩
  obtain ⟨failure, qs, hres, hasks, htraffic⟩ :=
    Reviewer.obeys_run_unlisted hhost hpull hfront hreply hlistable w hreplies
  rcases hrun : (r.run event).outcome w with ⟨res, w₁⟩
  rw [hrun] at hres htraffic
  obtain rfl : res = .error failure := hres
  have hsent : w₁.sent = w.sent ++ qs :=
    (congrArg Traffic.sent htraffic).trans (w.traffic.sent_sendAll qs)
  have hcommands : w₁.commands = w.commands :=
    (congrArg Traffic.commands htraffic).trans (w.traffic.commands_sendAll qs)
  have hreport := obeys_reportFailure_last hhost event failure w₁
  rcases hreported : (reportFailure r event failure).outcome w₁ with ⟨ended, w'⟩
  rw [hreported] at hreport
  obtain ⟨rfl : ended = .ok (), hsends⟩ := hreport
  have hreview : (review r event).outcome w = (.ok none, w') := by
    rw [outcome_review_error hrun, Run.outcome_bind_ok hreported, Run.outcome_pure]
  rcases hsends with hidle | ⟨q, sha, hsends, hpurpose⟩
  · refine ⟨qs, failure, w₁, [], w', hasks, rfl, hsent, hcommands, hreview, ?_, ?_, Nat.zero_le _,
      by simp⟩
    · rw [List.append_nil, ← hsent]
      exact congrArg Traffic.sent hidle
    · rw [← hcommands]
      exact congrArg Traffic.commands hidle
  · refine ⟨qs, failure, w₁, [q], w', hasks, rfl, hsent, hcommands, hreview, ?_, ?_, Nat.le_refl _,
      by simpa using ⟨_, hpurpose⟩⟩
    · rw [← hsent]
      exact (congrArg Traffic.sent hsends).trans (w₁.traffic.sent_send q)
    · rw [← hcommands]
      exact (congrArg Traffic.commands hsends).trans (w₁.traffic.commands_send q)

/-- A world in which a full page is followed by a list that comes with an error. -/
def Action.haltedWorld : World where
  hostReplies := [{ result := .ok Reviewer.samplePage },
    { result := .ok { Response.success "[]" with status := 500 } }]

/-- The review fails there after both pages. -/
theorem Action.review_haltedWorld :
    Reviewer.sampleReviewer.host.remote = .codeHost ∧
      Reviewer.sampleEvent.pullRequest = some Reviewer.samplePullRequest ∧
      ∃ full broken, haltedWorld.hostReplies = [full] ++ broken :: [] ∧
        CodeHost.IsFullPage full ∧ (∀ entries, ¬ CodeHost.IsPage broken entries) ∧
        (∀ k ≤ 1, CodeHost.IsListable Reviewer.sampleReviewer.host "o/r" 1 (k + 1)) ∧
        ∃ failure w' closing w'' qs,
          (Reviewer.sampleReviewer.run Reviewer.sampleEvent).outcome haltedWorld =
            (.error failure, w') ∧ w'.sent = qs ∧ w'.commands = [] ∧
          List.Forall₂ (CodeHost.AsksFor Reviewer.sampleReviewer.host "o/r" 1) [1, 2] qs ∧
          (review Reviewer.sampleReviewer Reviewer.sampleEvent).outcome haltedWorld =
            (.ok none, w'') ∧ w''.sent = qs ++ closing ∧ w''.commands = [] ∧
          ∀ q ∈ closing, ∃ run, q.purpose = .checkRun run := by
  obtain ⟨entries, hjson, hlength, -⟩ := Reviewer.entries_samplePage
  have hfull : CodeHost.IsFullPage { result := .ok Reviewer.samplePage } :=
    ⟨entries, ⟨_, rfl, by decide, hjson⟩, Nat.le_of_eq hlength.symm⟩
  have hbroken : ∀ entries, ¬ CodeHost.IsPage
      { result := .ok { Response.success "[]" with status := 500 } } entries := by
    rintro entries ⟨response, hresult, hstatus, -⟩
    obtain rfl := Except.ok.inj hresult
    exact absurd hstatus (by decide)
  have hlistable : ∀ k ≤ 1, CodeHost.IsListable Reviewer.sampleReviewer.host "o/r" 1 (k + 1) :=
    fun k hk => Reviewer.isListable_sample hk
  obtain ⟨-, hfails⟩ := @review_listsWhole Reviewer.sampleReviewer Reviewer.sampleEvent
    Reviewer.samplePullRequest [_] [] _ haltedWorld rfl rfl rfl (by simpa using hfull)
    (fun ⟨entries, hpage, _⟩ => hbroken entries hpage) hlistable
  obtain ⟨qs, failure, w', closing, w'', hasks, hrun, hsent, hcommands, hreview, hclosed, hidle, -,
    hpurposes⟩ := hfails hbroken
  exact ⟨rfl, rfl, _, _, rfl, hfull, hbroken, hlistable, failure, w', closing, w'', qs, hrun, hsent,
    hcommands, hasks, hreview, hclosed, hidle, hpurposes⟩

end Reviews

end InlineReview
