import InlineReview.Proofs.Review.Endings
import InlineReview.Proofs.Run.Deeds

/-!
# Failures that escape

An action handles the failures of its settings, of its event and of its review.  The clients of the
services are made between the last two, where nobody handles a failure: if they cannot be made, the
action fails and tells nobody of it.

* `Reviewer.exists_ofSettings_iff` — the settings from which the clients can be made.
* `Action.reports_reportFailure` — what a failure of a review leads to.
* `Action.run_escapes_iff` — when an action has a status, and when a failure is reported.
* `Action.run_garbledKey` — a failure that escapes.
-/

namespace InlineReview

open Text

/-! ## Clients that can be made -/

/-- ASCII writes a text exactly if each of its characters is written as one octet. -/
theorem Text.of?_ascii_eq_none {s : List Char} : EncodeFault.of? .ascii s = none ↔ IsAscii s := by
  have hnil : s.dropWhile Written.ascii.holds = [] ↔ IsAscii s := by
    simp [List.dropWhile_eq_nil_iff, IsAscii, Written.holds]
  rw [← hnil, EncodeFault.of?, drop_takeWhile]
  cases s.dropWhile Written.ascii.holds <;> simp

namespace Client

/-- Headers pass exactly if their values are ASCII. -/
theorem checkHeaders_eq_ok_iff {headers : List (String × String)} :
    checkHeaders headers = .ok () ↔ ∀ h ∈ headers, IsAscii h.2.toList := by
  induction headers with
  | nil => simp [checkHeaders]
  | cons header rest ih =>
    obtain ⟨name, value⟩ := header
    rw [List.forall_mem_cons, ← of?_ascii_eq_none, ← ih, checkHeaders]
    cases EncodeFault.of? .ascii value.toList <;> simp

/-- Can the base address of a client be read, without the slashes at its end? -/
def IsAddress (address : String) : Prop :=
  ∃ base, Base.read (String.ofList (dropTrailing '/' address.toList)) = .ok base

/-- A client can be made of an address that can be read and headers in ASCII. -/
theorem exists_create_iff {remote : Remote} {address : String}
    {headers : List (String × String)} :
    (∃ c, create remote address headers = .ok c) ↔
      IsAddress address ∧ ∀ h ∈ headers, IsAscii h.2.toList := by
  rw [← checkHeaders_eq_ok_iff, IsAddress, create]
  cases Base.read (String.ofList (dropTrailing '/' address.toList)) with
  | error fault =>
    refine iff_of_false ?_ ?_
    · rintro ⟨c, h⟩
      cases h
    · rintro ⟨⟨base, h⟩, -⟩
      cases h
  | ok base =>
    rcases hheaders : checkHeaders headers with fault | passed
    · refine iff_of_false ?_ ?_
      · rintro ⟨c, h⟩
        cases h
      · rintro ⟨-, h⟩
        cases h
    · exact iff_of_true ⟨_, rfl⟩ ⟨⟨base, rfl⟩, rfl⟩

end Client

/-- Can the clients of the services be made from the settings?  The credentials must be ASCII, and
the addresses must be such that requests can be put under them. -/
structure Settings.HasClients (s : Settings) : Prop where
  hostToken : IsAscii s.hostToken.toList
  modelKey : IsAscii s.modelKey.toList
  hostAddress : Client.IsAddress s.hostBase
  modelAddress : Client.IsAddress s.modelBase

theorem CodeHost.exists_client_iff {address token : String} :
    (∃ c, client address token defaultUserAgent = .ok c) ↔
      Client.IsAddress address ∧ IsAscii token.toList := by
  have hfixed : IsAscii defaultUserAgent.toList ∧ IsAscii "Bearer ".toList ∧
      IsAscii "application/vnd.github+json".toList ∧ IsAscii "2022-11-28".toList := by decide
  obtain ⟨hagent, hbearer, haccept, hversion⟩ := hfixed
  have hcredentials : IsAscii s!"Bearer {token}".toList ↔ IsAscii token.toList := by
    have htext : s!"Bearer {token}".toList = "Bearer ".toList ++ token.toList :=
      String.toList_append
    rw [htext, isAscii_append, and_iff_right hbearer]
  rw [client, Client.exists_create_iff]
  simp only [List.forall_mem_cons, List.not_mem_nil, false_imp_iff, implies_true, and_true,
    hagent, haccept, hversion, hcredentials, true_and]

theorem Model.exists_create_iff {key name address : String} {timeout : Seconds} :
    (∃ m, create key name address timeout = .ok m) ↔
      Client.IsAddress address ∧ IsAscii key.toList := by
  have hfixed : IsAscii Client.jsonHeader.2.toList := by decide
  have hclient := @Client.exists_create_iff .model address
    [("x-goog-api-key", key), Client.jsonHeader]
  simp only [List.forall_mem_cons, List.not_mem_nil, false_imp_iff, implies_true, and_true,
    hfixed] at hclient
  rw [← hclient, create]
  cases Client.create .model address [("x-goog-api-key", key), Client.jsonHeader] with
  | error fault =>
    refine iff_of_false ?_ ?_
    · rintro ⟨m, h⟩
      cases h
    · rintro ⟨c, h⟩
      cases h
  | ok c => exact iff_of_true ⟨_, rfl⟩ ⟨c, rfl⟩

/-- The settings describe a reviewer exactly if its clients can be made. -/
theorem Reviewer.exists_ofSettings_iff {s : Settings} :
    (∃ r, ofSettings s = .ok r) ↔ s.HasClients := by
  have hhost := @CodeHost.exists_client_iff s.hostBase s.hostToken
  have hmodel := @Model.exists_create_iff s.modelKey s.modelName s.modelBase (.real s.timeout)
  constructor
  · rintro ⟨r, h⟩
    unfold ofSettings at h
    cases hclient : CodeHost.client s.hostBase s.hostToken CodeHost.defaultUserAgent with
    | error fault =>
      rw [hclient] at h
      cases h
    | ok c =>
      cases hcreated : Model.create s.modelKey s.modelName s.modelBase (.real s.timeout) with
      | error fault =>
        simp only [hclient, hcreated, bind, Except.bind] at h
        cases h
      | ok m =>
        obtain ⟨haddress, htoken⟩ := hhost.1 ⟨c, hclient⟩
        obtain ⟨hbase, hkey⟩ := hmodel.1 ⟨m, hcreated⟩
        exact ⟨htoken, hkey, haddress, hbase⟩
  · rintro ⟨htoken, hkey, haddress, hbase⟩
    obtain ⟨c, hclient⟩ := hhost.2 ⟨haddress, htoken⟩
    obtain ⟨m, hcreated⟩ := hmodel.2 ⟨hbase, hkey⟩
    unfold ofSettings
    rw [hclient]
    simp only [hcreated, bind, Except.bind]
    exact ⟨_, rfl⟩

/-- An event with a commit has a pull request. -/
theorem Event.isSome_of_headSha {event : Event} {sha : String} (h : event.headSha = some sha) :
    event.pullRequest.isSome = true := by
  obtain ⟨pull, hpull, -⟩ := Option.bind_eq_some_iff.1 h
  rw [hpull, Option.isSome_some]

namespace Action

/-! ## Reports -/

/-- The message of the entry about a failure to report a failure. -/
def unreportedText (second : Failure) : String :=
  s!"=== FAILURE: Failed to report the failed run | Error: {second.message} ==="

/-- How a failure of a review is reported, from the world in which it came to the world after its
report: its summary is sent, or the last entry says why that cannot be put together. -/
inductive Reports (r : Reviewer) (sha : String) (failure : Failure) (w w' : World) : Prop where
  /-- The summary of the failure is sent. -/
  | posted (q : Request)
      (hrequest : (Reviewer.summaryCall r.host r.settings sha
        (.failed failure.message)).request = .ok q)
      (hsent : w'.sent = w.sent ++ [q])
  /-- The request for the summary cannot be put together. -/
  | unformed (second : Failure)
      (hrequest : (Reviewer.summaryCall r.host r.settings sha
        (.failed failure.message)).request = .error second)
      (hsent : w'.sent = w.sent)
      (hnoted : w'.journal.getLast?.map (·.message) = some (unreportedText second))

theorem outcome_noteFailure (context : Context) (message text : String) (w : World) :
    (Run.noteFailure context message (some text)).outcome w =
      (.ok (), { w with journal := w.journal ++
        [{ level := .error, context,
           message := s!"=== FAILURE: {message} | Error: {text} ===" }] }) :=
  rfl

theorem outcome_postSummary {host : Client} {s : Settings} {sha : String} (hne : sha ≠ "")
    (summary : Summary) (w : World) :
    (Reviewer.postSummary host s (some sha) summary).outcome w =
      (do
        let _ ← (Reviewer.summaryCall host s sha summary).perform
        pure () : Run Unit).outcome w := by
  unfold Reviewer.postSummary
  split
  · rename_i h
    cases h
  · rename_i h
    exact absurd (Option.some.inj h) hne
  · rename_i h
    rw [← Option.some.inj h]
    rfl

/-- A failure on a commit is reported, whatever comes of the report. -/
theorem reports_reportFailure {r : Reviewer} {event : Event} {sha : String} (failure : Failure)
    (hsha : event.headSha = some sha) (hne : sha ≠ "") (w : World) :
    ∃ w', (reportFailure r event failure).outcome w = (.ok (), w') ∧
      Reports r sha failure w w' := by
  rw [reportFailure, hsha, Run.outcome_bind_ok (outcome_noteFailure _ _ _ w),
    Run.outcome_tryCatch, outcome_postSummary hne]
  generalize hnoted : ({ w with journal := w.journal ++ _ } : World) = w₁
  have hsame : w₁.sent = w.sent := by rw [← hnoted]
  cases hrequest : (Reviewer.summaryCall r.host r.settings sha
      (.failed failure.message)).request with
  | error second =>
    rw [Run.outcome_bind_error (Call.outcome_perform_error hrequest w₁)]
    refine ⟨_, outcome_noteFailure _ _ _ w₁, .unformed second hrequest hsame ?_⟩
    rw [List.getLast?_concat]
    rfl
  | ok q =>
    have hperformed := Call.outcome_perform_ok hrequest w₁
    have hsent : (w₁.receive q).sent = w.sent ++ [q] := by rw [World.sent_receive, hsame]
    generalize (Reviewer.summaryCall r.host r.settings sha
      (.failed failure.message)).resultOf q (w₁.replyFor q) = res at hperformed
    cases res with
    | error second =>
      rw [Run.outcome_bind_error hperformed]
      exact ⟨_, outcome_noteFailure _ _ _ _, .posted q hrequest hsent⟩
    | ok v =>
      rw [Run.outcome_bind_ok hperformed]
      exact ⟨_, rfl, .posted q hrequest hsent⟩

/-! ## From the environment to the review -/

/-- The world of an action that has read its settings. -/
def listening (w : World) : World := { w with handlesSignals := true }

variable {env : Environment} {s : Settings} {event : Event} {failure : Failure}
  {r : Reviewer} {w w₁ : World}

/-- What an action does about the end of its run: an event that is of no use gives a status, and any
other failure goes on. -/
theorem outcome_run (hsettings : Settings.ofEnvironment env = .ok s) (w : World) :
    (run env).outcome w =
      match (runReview s).outcome (listening w) with
      | (.ok _, w') => (.ok 0, w')
      | (.error e, w') =>
        if isEventFailure e then
          (Run.noteFailure [] "Unable to load the event payload" (some e.message) >>= fun _ =>
            pure 1).outcome w'
        else (.error e, w') := by
  have hlistens : (modify fun w => { w with handlesSignals := true } : Run Unit).outcome w =
      (.ok (), listening w) := rfl
  unfold run
  rw [hsettings]
  refine (Run.outcome_bind_ok hlistens).trans ?_
  rw [Run.outcome_tryCatch, Run.outcome_bind]
  rcases (runReview s).outcome (listening w) with ⟨e | ended, w'⟩
  · by_cases he : isEventFailure e = true
    · simp only [if_pos he]
    · simp only [if_neg he]
      rfl
  · rfl

theorem outcome_run_unset {fault : SettingsFault}
    (hsettings : Settings.ofEnvironment env = .error fault) (w : World) :
    ∃ w', (run env).outcome w = (.ok 1, w') := by
  unfold run
  rw [hsettings]
  exact ⟨_, rfl⟩

theorem outcome_readEvent (s : Settings) (w : World) :
    (readEvent s).outcome w = ((Event.load w.files s.eventPath).mapError .event, w) := by
  rw [readEvent, Run.outcome_bind_ok (Run.outcome_get w), Run.outcome_ofExcept]

/-- Where the settings describe no reviewer, an action with a pull request fails and does
nothing else. -/
theorem outcome_runReview_unmade (hreviewer : Reviewer.ofSettings s = .error failure)
    (hevent : Event.load w.files s.eventPath = .ok event)
    (hpull : event.pullRequest.isSome = true) :
    (runReview s).outcome w = (.error failure, w) := by
  have hread : (readEvent s).outcome w = (.ok event, w) := by
    rw [outcome_readEvent, hevent]
    rfl
  have hsome : event.pullRequest.isNone = false := by
    rw [← Option.not_isSome, hpull]
    rfl
  rw [runReview, Run.outcome_bind_ok hread, hsome, hreviewer]
  rfl

/-- An event without a pull request is let be. -/
theorem outcome_runReview_idle (hevent : Event.load w.files s.eventPath = .ok event)
    (hpull : event.pullRequest.isSome = false) :
    ∃ w', (runReview s).outcome w = (.ok none, w') ∧ w'.sent = w.sent := by
  have hread : (readEvent s).outcome w = (.ok event, w) := by
    rw [outcome_readEvent, hevent]
    rfl
  have hnone : event.pullRequest.isNone = true := by
    rw [← Option.not_isSome, hpull]
    rfl
  rw [runReview, Run.outcome_bind_ok hread, if_pos hnone]
  exact ⟨_, rfl, rfl⟩

theorem outcome_runReview_unread {fault : EventFault}
    (hevent : Event.load w.files s.eventPath = .error fault) :
    (runReview s).outcome w = (.error (.event fault), w) := by
  have hread : (readEvent s).outcome w = (.error (.event fault), w) := by
    rw [outcome_readEvent, hevent]
    rfl
  rw [runReview, Run.outcome_bind_error hread]

/-- A review always comes to an end without failing. -/
theorem outcome_review (hreviewer : Reviewer.ofSettings s = .ok r) (event : Event) (w : World) :
    ∃ ended w', (review r event).outcome w = (.ok ended, w') := by
  obtain ⟨-, hhost, -⟩ := Reviewer.parts_of_settings hreviewer
  rcases hrun : (r.run event).outcome w with ⟨failure | outcome, w₁⟩
  · obtain ⟨hres, -⟩ := obeys_reportFailure hhost event failure w₁
    rcases hreported : (reportFailure r event failure).outcome w₁ with ⟨res, w₂⟩
    rw [hreported] at hres
    obtain rfl : res = .ok () := hres
    rw [outcome_review_error hrun, Run.outcome_bind_ok hreported]
    exact ⟨_, _, rfl⟩
  · exact ⟨_, _, outcome_review_ok hrun⟩

/-- Without its clients, what fails after the event has been read is that they are made. -/
theorem outcome_reviewOrFail_unmade (hreviewer : Reviewer.ofSettings s = .error failure)
    (hevent : Event.load w.files s.eventPath = .ok event) :
    (reviewOrFail s).outcome w = (.error failure, w) := by
  have hread : (readEvent s).outcome w = (.ok event, w) := by
    rw [outcome_readEvent, hevent]
    rfl
  rw [reviewOrFail, Run.outcome_bind_ok hread, hreviewer]
  rfl

/-- With its clients, what fails after the event has been read is the review. -/
theorem outcome_reviewOrFail (hreviewer : Reviewer.ofSettings s = .ok r)
    (hevent : Event.load w.files s.eventPath = .ok event) :
    (reviewOrFail s).outcome w = (r.run event).outcome w := by
  have hread : (readEvent s).outcome w = (.ok event, w) := by
    rw [outcome_readEvent, hevent]
    rfl
  rw [reviewOrFail, Run.outcome_bind_ok hread, hreviewer, Run.ofExcept_ok_bind]

/-! ## What escapes -/

/-- Does an action fail in an environment?  It does if the event cannot be read for a reason that is
not handled, and if it has a pull request but the clients cannot be made. -/
def Escapes (env : Environment) (files : FileStore) : Prop :=
  match Settings.ofEnvironment env with
  | .error _ => False
  | .ok s =>
    match Event.load files s.eventPath with
    | .error fault => isEventFailure (.event fault) = false
    | .ok event => event.pullRequest.isSome = true ∧ ¬ s.HasClients

theorem escapes_of_fault {fault : EventFault} (hsettings : Settings.ofEnvironment env = .ok s)
    (hevent : Event.load w.files s.eventPath = .error fault) :
    Escapes env w.files ↔ isEventFailure (.event fault) = false := by
  simp only [Escapes, hsettings, hevent]

theorem escapes_of_event (hsettings : Settings.ofEnvironment env = .ok s)
    (hevent : Event.load w.files s.eventPath = .ok event) :
    Escapes env w.files ↔ event.pullRequest.isSome = true ∧ ¬ s.HasClients := by
  simp only [Escapes, hsettings, hevent]

theorem not_isEventFailure_of_checkHeaders {headers : List (String × String)}
    (h : Client.checkHeaders headers = .error failure) : isEventFailure failure = false := by
  induction headers with
  | nil => cases h
  | cons header rest ih =>
    rw [Client.checkHeaders] at h
    split at h
    · obtain rfl := Except.error.inj h
      rfl
    · exact ih h

/-- A failure to make the clients is not handled, since it is none of the event. -/
theorem not_isEventFailure_of_ofSettings (hreviewer : Reviewer.ofSettings s = .error failure) :
    isEventFailure failure = false := by
  have hclient : ∀ {remote address headers e}, Client.create remote address headers = .error e →
      isEventFailure e = false := by
    intro remote address headers e h
    unfold Client.create at h
    cases hbase : Base.read (String.ofList (dropTrailing '/' address.toList)) with
    | error fault =>
      rw [hbase] at h
      obtain rfl := Except.error.inj h
      rfl
    | ok base =>
      cases hheaders : Client.checkHeaders headers with
      | error fault =>
        simp only [hbase, hheaders, Except.mapError, bind, Except.bind] at h
        obtain rfl := Except.error.inj h
        exact not_isEventFailure_of_checkHeaders hheaders
      | ok _ =>
        simp only [hbase, hheaders, Except.mapError, bind, Except.bind] at h
        cases h
  unfold Reviewer.ofSettings at hreviewer
  cases hhost : CodeHost.client s.hostBase s.hostToken CodeHost.defaultUserAgent with
  | error fault =>
    rw [hhost] at hreviewer
    obtain rfl := Except.error.inj hreviewer
    exact hclient hhost
  | ok host =>
    unfold Model.create at hreviewer
    cases hmodel : Client.create .model s.modelBase
        [("x-goog-api-key", s.modelKey), Client.jsonHeader] with
    | error fault =>
      simp only [hhost, hmodel, bind, Except.bind] at hreviewer
      obtain rfl := Except.error.inj hreviewer
      exact hclient hmodel
    | ok client =>
      simp only [hhost, hmodel, bind, Except.bind] at hreviewer
      cases hreviewer

/-- Where the clients cannot be made, an action with a pull request fails and sends nothing. -/
theorem outcome_run_unmade (hsettings : Settings.ofEnvironment env = .ok s)
    (hreviewer : Reviewer.ofSettings s = .error failure)
    (hevent : Event.load w.files s.eventPath = .ok event)
    (hpull : event.pullRequest.isSome = true) :
    (run env).outcome w = (.error failure, listening w) := by
  have hfailed : (runReview s).outcome (listening w) = (.error failure, listening w) :=
    outcome_runReview_unmade hreviewer hevent hpull
  have hgoes : ¬ isEventFailure failure = true := by
    rw [not_isEventFailure_of_ofSettings hreviewer]
    exact Bool.false_ne_true
  rw [outcome_run hsettings, hfailed]
  exact if_neg hgoes

/-- Where they can be made, an action with an event that can be read has the status zero. -/
theorem outcome_run_made (hsettings : Settings.ofEnvironment env = .ok s)
    (hreviewer : Reviewer.ofSettings s = .ok r)
    (hevent : Event.load w.files s.eventPath = .ok event)
    (hpull : event.pullRequest.isSome = true) :
    (run env).outcome w = (.ok 0, ((review r event).outcome (listening w)).2) := by
  obtain ⟨ended, w', hended⟩ := outcome_review hreviewer event (listening w)
  have hran : (runReview s).outcome (listening w) = (.ok ended, w') :=
    (outcome_runReview (w := listening w) hreviewer hevent hpull).trans hended
  rw [outcome_run hsettings, hran, hended]

theorem exists_status_of_unset {fault : SettingsFault}
    (hsettings : Settings.ofEnvironment env = .error fault) :
    (∃ status, ((run env).outcome w).1 = .ok status ∧ (status = 0 ∨ status = 1)) ↔
      ¬ Escapes env w.files := by
  have hnever : ¬ Escapes env w.files := by
    rw [Escapes, hsettings]
    exact not_false
  obtain ⟨w', hended⟩ := outcome_run_unset hsettings w
  rw [hended]
  exact iff_of_true ⟨1, rfl, .inr rfl⟩ hnever

theorem exists_status_of_fault {fault : EventFault}
    (hsettings : Settings.ofEnvironment env = .ok s)
    (hevent : Event.load w.files s.eventPath = .error fault) :
    (∃ status, ((run env).outcome w).1 = .ok status ∧ (status = 0 ∨ status = 1)) ↔
      ¬ Escapes env w.files := by
  have hfailed : (runReview s).outcome (listening w) = (.error (.event fault), listening w) :=
    outcome_runReview_unread hevent
  rw [escapes_of_fault hsettings hevent, outcome_run hsettings, hfailed]
  by_cases hhandled : isEventFailure (.event fault) = true
  · simp only [if_pos hhandled]
    exact iff_of_true ⟨1, rfl, .inr rfl⟩ (by simp [hhandled])
  · simp only [if_neg hhandled]
    refine iff_of_false ?_ (not_not.2 (Bool.eq_false_iff.2 hhandled))
    rintro ⟨status, h, -⟩
    cases h

theorem exists_status_of_event (hsettings : Settings.ofEnvironment env = .ok s)
    (hevent : Event.load w.files s.eventPath = .ok event) :
    (∃ status, ((run env).outcome w).1 = .ok status ∧ (status = 0 ∨ status = 1)) ↔
      ¬ Escapes env w.files := by
  rw [escapes_of_event hsettings hevent]
  by_cases hpull : event.pullRequest.isSome = true
  · cases hreviewer : Reviewer.ofSettings s with
    | ok r =>
      have hmade : s.HasClients := Reviewer.exists_ofSettings_iff.1 ⟨r, hreviewer⟩
      rw [outcome_run_made hsettings hreviewer hevent hpull]
      exact iff_of_true ⟨0, rfl, .inl rfl⟩ fun h => h.2 hmade
    | error failure =>
      have hunmade : ¬ s.HasClients := by
        intro h
        obtain ⟨r, hr⟩ := Reviewer.exists_ofSettings_iff.2 h
        rw [hreviewer] at hr
        cases hr
      rw [outcome_run_unmade hsettings hreviewer hevent hpull]
      refine iff_of_false ?_ (not_not.2 ⟨hpull, hunmade⟩)
      rintro ⟨status, h, -⟩
      cases h
  · obtain ⟨w', hended, -⟩ := outcome_runReview_idle (w := listening w) hevent
      (Bool.eq_false_iff.2 hpull)
    rw [outcome_run hsettings, hended]
    exact iff_of_true ⟨0, rfl, .inl rfl⟩ fun h => hpull h.1

/-- An action has the status zero or one exactly if nothing escapes.  A failure that comes after its
event has been read, on a commit, is reported if the clients can be made; otherwise it is that they
cannot, it escapes, and nothing is sent. -/
theorem run_escapes_iff (env : Environment) (w : World) :
    ((∃ status, ((run env).outcome w).1 = .ok status ∧ (status = 0 ∨ status = 1)) ↔
        ¬ Escapes env w.files) ∧
      ∀ s event sha failure w₁, Settings.ofEnvironment env = .ok s →
        Event.load w.files s.eventPath = .ok event → event.headSha = some sha → sha ≠ "" →
        (reviewOrFail s).outcome (listening w) = (.error failure, w₁) →
          (s.HasClients → ∃ r w', Reviewer.ofSettings s = .ok r ∧
              (run env).outcome w = (.ok 0, w') ∧ Reports r sha failure w₁ w') ∧
            (¬ s.HasClients → (run env).outcome w = (.error failure, w₁) ∧ w₁.sent = w.sent) := by
  have hstatus : (∃ status, ((run env).outcome w).1 = .ok status ∧ (status = 0 ∨ status = 1)) ↔
      ¬ Escapes env w.files := by
    cases hsettings : Settings.ofEnvironment env with
    | error fault => exact exists_status_of_unset hsettings
    | ok s =>
      cases hevent : Event.load w.files s.eventPath with
      | error fault => exact exists_status_of_fault hsettings hevent
      | ok event => exact exists_status_of_event hsettings hevent
  refine ⟨hstatus, ?_⟩
  intro s event sha failure w₁ hsettings hevent hsha hne hfailed
  have hpull : event.pullRequest.isSome = true := Event.isSome_of_headSha hsha
  constructor
  · intro hmade
    obtain ⟨r, hreviewer⟩ := Reviewer.exists_ofSettings_iff.2 hmade
    have hrun : (r.run event).outcome (listening w) = (.error failure, w₁) :=
      (outcome_reviewOrFail (w := listening w) hreviewer hevent).symm.trans hfailed
    obtain ⟨w', hreported, hreports⟩ := reports_reportFailure (r := r) failure hsha hne w₁
    have hended : (review r event).outcome (listening w) = (.ok none, w') := by
      rw [outcome_review_error hrun, Run.outcome_bind_ok hreported]
      rfl
    refine ⟨r, w', hreviewer, ?_, hreports⟩
    rw [outcome_run_made hsettings hreviewer hevent hpull, hended]
  · intro hunmade
    cases hreviewer : Reviewer.ofSettings s with
    | ok r => exact absurd (Reviewer.exists_ofSettings_iff.1 ⟨r, hreviewer⟩) hunmade
    | error e =>
      have hsame := (outcome_reviewOrFail_unmade (w := listening w) hreviewer hevent).symm.trans
        hfailed
      obtain ⟨rfl, rfl⟩ : e = failure ∧ listening w = w₁ := by
        obtain ⟨herror, hworld⟩ := Prod.mk.inj hsame
        exact ⟨Except.error.inj herror, hworld⟩
      exact ⟨outcome_run_unmade hsettings hreviewer hevent hpull, rfl⟩

/-- An environment from which the clients can be made. -/
def plainEnvironment : Environment :=
  [("INPUT_GITHUB_TOKEN", "t"), ("INPUT_GEMINI_API_KEY", "k"), ("GITHUB_REPOSITORY", "o/r"),
    ("GITHUB_EVENT_PATH", "/e"), ("GITHUB_API_URL", "http://[::1]"),
    ("GEMINI_API_BASE_URL", "http://[::1]")]

/-- An environment whose key of the model is not ASCII. -/
def garbledEnvironment : Environment :=
  [("INPUT_GITHUB_TOKEN", "t"), ("INPUT_GEMINI_API_KEY", "é"), ("GITHUB_REPOSITORY", "o/r"),
    ("GITHUB_EVENT_PATH", "/e"), ("GITHUB_API_URL", "http://[::1]"),
    ("GEMINI_API_BASE_URL", "http://[::1]")]

/-- A review of the world that is broken, in an environment whose clients can be made or not. -/
theorem exists_failure_brokenWorld {env : Environment} {made : Bool}
    (h : (Settings.ofEnvironment env).toOption.map (fun s => (s.eventPath,
      (Reviewer.ofSettings s).isOk,
      ((reviewOrFail s).outcome (listening (brokenWorld "s"))).1.isOk)) =
        some (Reviewer.sampleSettings.eventPath, made, false)) :
    ∃ s event failure w₁, Settings.ofEnvironment env = .ok s ∧
      Event.load (brokenWorld "s").files s.eventPath = .ok event ∧ event.headSha = some "s" ∧
      (reviewOrFail s).outcome (listening (brokenWorld "s")) = (.error failure, w₁) ∧
      (s.HasClients ↔ made = true) := by
  cases hsettings : Settings.ofEnvironment env with
  | error fault =>
    rw [hsettings] at h
    cases h
  | ok s =>
    rw [hsettings] at h
    obtain ⟨hpath, hrest⟩ := Prod.mk.inj (Option.some.inj h)
    obtain ⟨hmade, hfailed⟩ := Prod.mk.inj hrest
    obtain ⟨event, hevent, -, hsha⟩ := event_brokenWorld "s" "s" (by decide +kernel)
    rw [← hpath] at hevent
    have hclients : s.HasClients ↔ made = true := by
      rw [← Reviewer.exists_ofSettings_iff, ← hmade]
      cases Reviewer.ofSettings s <;> simp [Except.isOk, Except.toBool]
    rcases houtcome : (reviewOrFail s).outcome (listening (brokenWorld "s")) with ⟨res, w₁⟩
    rw [houtcome] at hfailed
    cases res with
    | ok outcome => cases hfailed
    | error failure => exact ⟨s, event, failure, w₁, rfl, hevent, hsha, houtcome, hclients⟩

/-- The failure to reach the code host is reported, that to make a client is not. -/
theorem run_escapes_brokenWorld :
    (∃ s event failure w₁, Settings.ofEnvironment plainEnvironment = .ok s ∧
      Event.load (brokenWorld "s").files s.eventPath = .ok event ∧ event.headSha = some "s" ∧
      (reviewOrFail s).outcome (listening (brokenWorld "s")) = (.error failure, w₁) ∧
      ∃ r w', Reviewer.ofSettings s = .ok r ∧
        (run plainEnvironment).outcome (brokenWorld "s") = (.ok 0, w') ∧
        Reports r "s" failure w₁ w') ∧
    ∃ s event failure w₁, Settings.ofEnvironment garbledEnvironment = .ok s ∧
      Event.load (brokenWorld "s").files s.eventPath = .ok event ∧ event.headSha = some "s" ∧
      (reviewOrFail s).outcome (listening (brokenWorld "s")) = (.error failure, w₁) ∧
      (run garbledEnvironment).outcome (brokenWorld "s") = (.error failure, w₁) ∧
      w₁.sent = [] := by
  constructor
  · obtain ⟨s, event, failure, w₁, hsettings, hevent, hsha, hfailed, hclients⟩ :=
      @exists_failure_brokenWorld plainEnvironment true (by decide +kernel)
    exact ⟨s, event, failure, w₁, hsettings, hevent, hsha, hfailed,
      ((run_escapes_iff plainEnvironment (brokenWorld "s")).2 s event "s" failure w₁ hsettings
        hevent hsha (by decide) hfailed).1 (hclients.2 rfl)⟩
  · obtain ⟨s, event, failure, w₁, hsettings, hevent, hsha, hfailed, hclients⟩ :=
      @exists_failure_brokenWorld garbledEnvironment false (by decide +kernel)
    exact ⟨s, event, failure, w₁, hsettings, hevent, hsha, hfailed,
      ((run_escapes_iff garbledEnvironment (brokenWorld "s")).2 s event "s" failure w₁ hsettings
        hevent hsha (by decide) hfailed).2 (by simp [hclients])⟩

/-- With a key that is not ASCII the action fails after it has read its event, and nothing is posted
on the commit. -/
theorem run_garbledKey :
    ∃ s event failure, Settings.ofEnvironment garbledEnvironment = .ok s ∧
      Event.load (brokenWorld "s").files s.eventPath = .ok event ∧ event.headSha = some "s" ∧
      (run garbledEnvironment).outcome (brokenWorld "s") =
        (.error failure, listening (brokenWorld "s")) ∧
      (listening (brokenWorld "s")).sent = [] := by
  obtain ⟨s, event, _, _, hsettings, hevent, hsha, -, hclients⟩ :=
    @exists_failure_brokenWorld garbledEnvironment false (by decide +kernel)
  cases hreviewer : Reviewer.ofSettings s with
  | ok r => exact absurd (hclients.1 (Reviewer.exists_ofSettings_iff.1 ⟨r, hreviewer⟩)) (by decide)
  | error failure =>
    exact ⟨s, event, failure, hsettings, hevent, hsha,
      outcome_run_unmade hsettings hreviewer hevent (Event.isSome_of_headSha hsha), rfl⟩

end Action

end InlineReview
