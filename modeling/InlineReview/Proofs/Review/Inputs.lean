import InlineReview.Proofs.Lint.Starting
import InlineReview.Proofs.Review.Purposes
import InlineReview.Proofs.Run.Exchanges

/-!
# What a review reads

The changed files are what the code host's replies list, page after page, and the lint results what
the report holds that the linter leaves.  Both are told here as functions of the traffic; listing
sends nothing but requests for pages, and linting sends nothing.

* `CodeHost.obeys_listFiles` — the entries of the pages, up to the first one that is not full.
* `Reviewer.obeys_fetchChangedFiles` — the changed files.
* `Linter.obeys_run` — the results and the files that the linter leaves.
-/

namespace InlineReview

/-! ## Changed files -/

/-- Does a run send requests for pages alone? -/
def Traffic.Lists (t : Traffic) (qs : List Request) (t' : Traffic) : Prop :=
  t' = t.sendAll qs ∧ ∀ q ∈ qs, q.remote = .codeHost ∧ q.purpose = .listing

namespace CodeHost

/-- The entries of a page, if the reply holds them. -/
def entriesIn? (reply : Reply) : Option (List Json) :=
  match reply.result with
  | .error _ => none
  | .ok response => if response.isError then none else (pageOf response).toOption

/-- The entries of the pages that replies hold, up to the first page that is not full.  The page
after the last reply is empty. -/
def entriesOf? : List Reply → Option (List Json)
  | [] => some []
  | reply :: rest => do
    let entries ← entriesIn? reply
    if entries.length < pageSize then some entries else return entries ++ (← entriesOf? rest)

theorem accept_eq_ok {path : String} {response r : Response} (h : accept path response = .ok r) :
    response.isError = false ∧ r = response := by
  unfold accept at h
  cases herror : response.isError with
  | false =>
    rw [if_pos (by simp [herror])] at h
    exact ⟨rfl, (Except.ok.inj h).symm⟩
  | true =>
    rw [if_neg (by simp [herror])] at h
    split at h
    · cases h
    · split at h <;> cases h

/-- A call that succeeds has drawn its result from a response that is no error. -/
theorem conclude_of_ok {α : Type} {c : Client} {method : Method} {path : Except Failure String}
    {parameters : Option String} {body : Option Json} {conclude : Response → Except Failure α}
    {q : Request} {reply : Reply} {a : α}
    (h : (call c method path parameters body conclude).resultOf q reply = .ok a) :
    ∃ response, reply.result = .ok response ∧ response.isError = false ∧
      conclude response = .ok a := by
  unfold Call.resultOf at h
  cases hresult : reply.result with
  | error fault => simp [hresult] at h
  | ok response =>
    simp only [hresult] at h
    split at h
    · cases path with
      | error e => cases h
      | ok p =>
        cases haccept : accept p response with
        | error e =>
          have hstep : accept p response >>= conclude = .ok a := h
          rw [haccept] at hstep
          cases hstep
        | ok r =>
          obtain ⟨herror, rfl⟩ := accept_eq_ok haccept
          have hstep : accept p r >>= conclude = .ok a := h
          rw [haccept] at hstep
          exact ⟨r, rfl, herror, hstep⟩
    · cases h

theorem accept_of_not_error {path : String} {response : Response}
    (h : response.isError = false) : accept path response = .ok response := by
  rw [accept, if_pos (by simp [h])]

/-- Can a page of the list be asked for? -/
def IsListable (c : Client) (fullName : String) (pull : Int) (page : Nat) : Prop :=
  ∃ q, (listPage c fullName pull page).request = .ok q ∧ Base.hasKind q.url.toList = true

theorem conclude_listPage {c : Client} {fullName : String} {pull : Int} {page : Nat} {q : Request}
    {response : Response} {entries : List Json}
    (hq : (listPage c fullName pull page).request = .ok q) (herror : response.isError = false)
    (hpage : (pageOf response).toOption = some entries) :
    (listPage c fullName pull page).conclude response = .ok entries := by
  cases hpath : resourcePath fullName s!"pulls/{pull}/files" with
  | error e =>
    rw [listPage, request_call, hpath] at hq
    cases hq
  | ok path =>
    show (resourcePath fullName s!"pulls/{pull}/files" >>= fun path =>
      accept path response >>= pageOf) = .ok entries
    rw [hpath]
    show (accept path response >>= pageOf) = .ok entries
    rw [accept_of_not_error herror]
    exact Run.toOption_eq_some.1 hpage

/-- The entries of a page are drawn from the reply. -/
theorem agrees_listPage {c : Client} {fullName : String} {pull : Int} {page : Nat} {q : Request}
    (hq : (listPage c fullName pull page).request = .ok q) (reply : Reply) :
    Run.Agrees (entriesIn? reply) (IsListable c fullName pull page)
      ((listPage c fullName pull page).resultOf q reply) where
  told_of_ok entries h := by
    obtain ⟨response, hresult, herror, hpage⟩ := conclude_of_ok h
    simp [entriesIn?, hresult, herror, hpage, Except.toOption]
  ok_of_told hlistable entries h := by
    obtain ⟨_, hrequest, hkind⟩ := hlistable
    obtain rfl := Except.ok.inj (hq.symm.trans hrequest)
    unfold entriesIn? at h
    unfold Call.resultOf
    cases hresult : reply.result with
    | error fault => simp [hresult] at h
    | ok response =>
      cases herror : response.isError with
      | true => simp [hresult, herror] at h
      | false =>
        simp only [hresult, herror, Bool.false_eq_true, if_false] at h
        simp only [if_pos hkind]
        exact conclude_listPage hq herror h

/-- The entries of a page with those of the pages after it, which are read only if it is full. -/
def entriesAfter? (entries : List Json) (replies : List Reply) : Option (List Json) :=
  if entries.length < pageSize then some entries
  else (entriesOf? replies).map (entries ++ ·)

theorem entriesAfter?_short {entries : List Json} (h : entries.length < pageSize)
    (replies : List Reply) : entriesAfter? entries replies = some entries := if_pos h

theorem entriesAfter?_full {entries : List Json} (h : ¬ entries.length < pageSize)
    (replies : List Reply) :
    entriesAfter? entries replies = (entriesOf? replies).map (entries ++ ·) := if_neg h

/-- The page after the last reply is empty. -/
theorem entriesIn?_of_nil {t : Traffic} {c : Client} {fullName : String} {pull : Int} {page : Nat}
    {q : Request} (hremote : c.remote = .codeHost)
    (hrequest : (listPage c fullName pull page).request = .ok q) (h : t.hostReplies = []) :
    entriesIn? (t.replyFor q) = some [] := by
  have hmethod : q.method = .get := (parts_of_call hrequest).2.1
  have hreply : t.replyFor q = Reply.last .get := by
    simp [Traffic.replyFor, Traffic.replies, (purpose_listing hremote hrequest).1, h, hmethod]
  rw [hreply]
  rfl

/-- The first page is drawn from the reply that comes for it, and the others from those after
it. -/
theorem entriesOf?_eq_bind {t : Traffic} {c : Client} {fullName : String} {pull : Int}
    {page : Nat} {q : Request} (hremote : c.remote = .codeHost)
    (hrequest : (listPage c fullName pull page).request = .ok q) :
    entriesOf? t.hostReplies = (entriesIn? (t.replyFor q)).bind fun entries =>
      entriesAfter? entries (t.send q).hostReplies := by
  have hq := (purpose_listing hremote hrequest).1
  rw [Traffic.hostReplies_send_host hq]
  cases hreplies : t.hostReplies with
  | nil =>
    rw [entriesIn?_of_nil hremote hrequest hreplies]
    rfl
  | cons reply rest =>
    have hreply : t.replyFor q = reply := by
      simp [Traffic.replyFor, Traffic.replies, hq, hreplies]
    rw [hreply, entriesOf?]
    cases entriesIn? reply with
    | none => rfl
    | some entries =>
      show (if entries.length < pageSize then some entries else _) = entriesAfter? entries rest
      by_cases hshort : entries.length < pageSize
      · rw [if_pos hshort, entriesAfter?_short hshort]
      · rw [if_neg hshort, entriesAfter?_full hshort]
        cases entriesOf? rest <;> rfl

/-- A full page has taken one of the replies. -/
theorem short_or_lt_of_page {t : Traffic} {c : Client} {fullName : String} {pull : Int}
    {page fuel : Nat} {q : Request} {entries : List Json} (hremote : c.remote = .codeHost)
    (hrequest : (listPage c fullName pull page).request = .ok q)
    (hpage : (listPage c fullName pull page).resultOf q (t.replyFor q) = .ok entries)
    (hfuel : t.hostReplies.length < fuel + 1) :
    entries.length < pageSize ∨ (t.send q).hostReplies.length < fuel := by
  have hin := (agrees_listPage hrequest (t.replyFor q)).told_of_ok entries hpage
  rw [Traffic.hostReplies_send_host (purpose_listing hremote hrequest).1]
  cases hreplies : t.hostReplies with
  | nil =>
    rw [entriesIn?_of_nil hremote hrequest hreplies] at hin
    obtain rfl := Option.some.inj hin
    exact .inl (by decide)
  | cons reply rest =>
    rw [hreplies, List.length_cons] at hfuel
    exact .inr (Nat.lt_of_succ_lt_succ hfuel)

/-- What listing from a page on does, if there is fuel for every reply that is left. -/
def ListsFrom (c : Client) (fullName : String) (pull : Int) (fuel page : Nat) (t : Traffic)
    (res : Except Failure (List Json)) (t' : Traffic) : Prop :=
  ∃ qs, t.Lists qs t' ∧ (t.hostReplies.length < fuel →
    Run.Agrees (entriesOf? t.hostReplies) (∀ k < fuel, IsListable c fullName pull (page + k)) res)

/-- What follows a page, if listing does from the next page on as it should. -/
theorem obeys_afterPage {c : Client} {fullName : String} {pull : Int} {fuel page : Nat}
    (ih : (listFrom c fullName pull fuel page).Obeys (ListsFrom c fullName pull fuel page))
    (entries : List Json) :
    (if entries.length < pageSize then pure entries
      else do return entries ++ (← listFrom c fullName pull fuel page) :
        Run (List Json)).Obeys fun t res t' => ∃ qs, t.Lists qs t' ∧
      (entries.length < pageSize ∨ t.hostReplies.length < fuel →
        Run.Agrees (entriesAfter? entries t.hostReplies)
          (∀ k < fuel, IsListable c fullName pull (page + k)) res) := by
  by_cases hshort : entries.length < pageSize
  · rw [if_pos hshort]
    refine (Run.obeys_pure entries).imp ?_
    rintro t res t' ⟨rfl, rfl⟩
    exact ⟨[], ⟨rfl, by simp⟩, fun _ => .of_ok (entriesAfter?_short hshort _)⟩
  · rw [if_neg hshort]
    refine (ih.bind fun others => Run.obeys_pure (entries ++ others)).imp ?_
    rintro t res t' (⟨e, ⟨qs, hlists, hagrees⟩, rfl⟩ |
      ⟨others, t₁, ⟨qs, hlists, hagrees⟩, rfl, rfl⟩)
    · refine ⟨qs, hlists, fun hfuel => .of_error fun hlistable => ?_⟩
      have hnone := (hagrees (hfuel.resolve_left hshort)).none_of_error hlistable
      rw [entriesAfter?_full hshort, hnone]
      rfl
    · refine ⟨qs, hlists, fun hfuel => .of_ok ?_⟩
      have hothers := (hagrees (hfuel.resolve_left hshort)).told_of_ok others rfl
      rw [entriesAfter?_full hshort, hothers]
      rfl

theorem obeys_listFrom {c : Client} (hremote : c.remote = .codeHost) (fullName : String)
    (pull : Int) (fuel page : Nat) :
    (listFrom c fullName pull fuel page).Obeys (ListsFrom c fullName pull fuel page) := by
  induction fuel generalizing page with
  | zero => exact fun w => ⟨[], ⟨rfl, by simp⟩, fun h => absurd h (Nat.not_lt_zero _)⟩
  | succ fuel ih =>
    rw [listFrom]
    refine ((listPage c fullName pull page).obeys_perform.bind
      (obeys_afterPage (ih (page + 1)))).imp ?_
    rintro t res t' (⟨e, ⟨_, hrequest, _, rfl⟩ | ⟨q, hrequest, hres, rfl⟩, rfl⟩ |
      ⟨entries, t₁, ⟨_, _, h, _⟩ | ⟨q, hrequest, hres, rfl⟩, qs, hlists, hagrees⟩)
    · refine ⟨[], ⟨rfl, by simp⟩, fun _ => .of_error fun hlistable => ?_⟩
      obtain ⟨q, hq, -⟩ := hlistable 0 (Nat.succ_pos _)
      cases hrequest.symm.trans hq
    · refine ⟨[q], ⟨rfl, by simpa using purpose_listing hremote hrequest⟩,
        fun _ => .of_error fun hlistable => ?_⟩
      have hpage := agrees_listPage hrequest (t.replyFor q)
      rw [← hres] at hpage
      rw [entriesOf?_eq_bind hremote hrequest, hpage.none_of_error (hlistable 0 (Nat.succ_pos _))]
      rfl
    · cases h
    · have hq := purpose_listing hremote hrequest
      have hin := (agrees_listPage hrequest (t.replyFor q)).told_of_ok entries hres.symm
      refine ⟨q :: qs, ⟨hlists.1, by simpa [hq] using hlists.2⟩, fun hfuel => ?_⟩
      rw [entriesOf?_eq_bind hremote hrequest, hin, Option.bind_some]
      refine (hagrees (short_or_lt_of_page hremote hrequest hres.symm hfuel)).imp
        fun hlistable k hk => ?_
      have hpage := hlistable (k + 1) (Nat.succ_lt_succ hk)
      rwa [← Nat.add_assoc, Nat.add_right_comm] at hpage

/-- Listing sends requests for pages alone and gives the entries of the pages. -/
theorem obeys_listFiles {c : Client} (hremote : c.remote = .codeHost) (fullName : String)
    (pull : Int) :
    (listFiles c fullName pull).Obeys fun t res t' => ∃ qs, t.Lists qs t' ∧
      Run.Agrees (entriesOf? t.hostReplies)
        (∀ k ≤ t.hostReplies.length, IsListable c fullName pull (k + 1)) res := by
  intro w
  rw [listFiles, Run.outcome_bind_ok (Run.outcome_get w)]
  obtain ⟨qs, hlists, hagrees⟩ :=
    obeys_listFrom hremote fullName pull (w.hostReplies.length + 1) 1 w
  refine ⟨qs, hlists, (hagrees (Nat.lt_succ_self _)).imp fun h k hk => ?_⟩
  rw [Nat.add_comm]
  exact h k (Nat.le_of_lt_succ hk)

end CodeHost

namespace Reviewer

/-- The changed files that replies list. -/
def changedFiles? (extensions : List String) (replies : List Reply) : Option (List ChangedFile) :=
  do
    let entries ← CodeHost.entriesOf? replies
    (ChangedFile.ofListing (.arr entries) extensions).outcome.1.toOption

/-- Fetching lists the entries and reads them, or fails as listing them does. -/
theorem obeys_fetching {host : Client} {fullName : String} {pull : Int}
    {P : Traffic → Except Failure (List Json) → Traffic → Prop}
    (hlists : (CodeHost.listFiles host fullName pull).Obeys P) (extensions : List String) :
    (fetchChangedFiles host fullName pull extensions).Obeys fun t res t' =>
      (∃ e, P t (.error e) t' ∧ res = .error e) ∨ ∃ entries, P t (.ok entries) t' ∧
        res = (ChangedFile.ofListing (.arr entries) extensions).outcome.1.mapError
          Failure.ofChangeFault := by
  rw [fetchChangedFiles]
  refine Run.Obeys.after ?_ (Run.isQuiet_note _ _ _)
  have hlisting := Run.obeys_timed (pullContext fullName pull) "fetch_pr_files" hlists
  have hread := fun entries => (Run.obeys_ofNoting Failure.ofChangeFault
    (ChangedFile.ofListing (.arr entries) extensions)).noted fun files =>
      Run.isQuiet_note (pullContext fullName pull) .info
        s!"PR #{pull} changed {entries.length} file(s), {files.length} to lint"
  refine ((hlisting.tryCatch fun failure => (?_ : Run.Obeys _ fun t res t' =>
    res = .error failure ∧ t' = t)).bind hread).imp ?_
  · cases failure with
    | host fault => exact Run.obeys_rethrow (Run.isQuiet_note _ _ _) _
    | _ => exact Run.obeys_throw _
  rintro t res t' (⟨e, ⟨_, _, h⟩ | ⟨_, t₁, hlisted, he, rfl⟩, rfl⟩ |
    ⟨entries, t₁, ⟨_, hlisted, h⟩ | ⟨_, _, _, h, _⟩, rfl, rfl⟩)
  · cases h
  · rw [← Except.error.inj he] at hlisted
    exact .inl ⟨e, hlisted, rfl⟩
  · obtain rfl := Except.ok.inj h
    exact .inr ⟨entries, hlisted, rfl⟩
  · cases h

/-- Fetching sends requests for pages alone and gives the changed files that the replies list. -/
theorem obeys_fetchChangedFiles {host : Client} (hremote : host.remote = .codeHost)
    (fullName : String) (pull : Int) (extensions : List String) :
    (fetchChangedFiles host fullName pull extensions).Obeys fun t res t' =>
      ∃ qs, t.Lists qs t' ∧ Run.Agrees (changedFiles? extensions t.hostReplies)
        (∀ k ≤ t.hostReplies.length, CodeHost.IsListable host fullName pull (k + 1)) res := by
  refine (obeys_fetching (CodeHost.obeys_listFiles hremote fullName pull) extensions).imp ?_
  rintro t res t' (⟨e, ⟨qs, hlists, hagrees⟩, rfl⟩ | ⟨entries, ⟨qs, hlists, hagrees⟩, rfl⟩)
  · refine ⟨qs, hlists, .of_error fun hlistable => ?_⟩
    rw [changedFiles?, hagrees.none_of_error hlistable]
    rfl
  · rw [changedFiles?, hagrees.told_of_ok _ rfl]
    exact ⟨qs, hlists, .of_mapError _ _⟩

end Reviewer

/-! ## Lint results -/

/-- What the linter does next. -/
def Traffic.nextLintRun (t : Traffic) : LintRun := t.lintRuns.head?.getD LintRun.last

namespace Linter

/-- The files after the linter has been run on changed files: only the report has changed. -/
def storeAfter (l : Linter) (files : List String) (store : FileStore) (lintRun : LintRun) :
    FileStore :=
  match lintRun.leaves? (l.commandOn files) with
  | some octets => (store.remove l.report).write l.report octets
  | none => store.remove l.report

/-- The files after the linter has been run on changed files, and its results.  Without a file to
lint it is not run, and there are no results if an old report cannot be removed or the linter does
not start or writes what is no text. -/
def resultsOf? (l : Linter) (files : List String) (store : FileStore) (lintRun : LintRun) :
    Option (FileStore × List LintResult) :=
  if (lintable files).isEmpty then some (store, [])
  else if (l.removalFault? store).isSome then none
  else do
    let _ ← (l.ended (l.commandOn files) lintRun).toOption
    let report ← (l.reportValue (l.storeAfter files store lintRun)).toOption
    let results ← (LintResult.ofReport report).outcome.1.toOption
    pure (l.storeAfter files store lintRun, results)

/-- Is nothing sent and no reply used?  What is calm stays so. -/
structure IsSilent (t t' : Traffic) : Prop where
  sent_eq : t'.sent = t.sent
  hostReplies_eq : t'.hostReplies = t.hostReplies
  modelReplies_eq : t'.modelReplies = t.modelReplies
  isCalm_eq : t'.isCalm = t.isCalm

theorem IsSilent.sends {t t' : Traffic} (h : IsSilent t t') : t.Sends [] t' where
  sent_eq := by rw [h.sent_eq, List.append_nil]
  replies_eq := by
    funext service
    cases service
    · exact h.hostReplies_eq
    · exact h.modelReplies_eq

theorem obeys_start (l : Linter) (arguments : List String) :
    (l.start arguments).Obeys fun t res t' => IsSilent t t' ∧
      res = l.ended { arguments, directory := l.directory.text } t.nextLintRun ∧
      t'.files = match t.nextLintRun.leaves? { arguments, directory := l.directory.text } with
        | some octets => t.files.write l.report octets
        | none => t.files := by
  intro w
  let started : World := { w with
    lintRuns := w.lintRuns.tail
    commands := w.commands ++ [{ arguments, directory := l.directory.text }] }
  have hcalm := started.isCalm_interrupt w.nextLintRun.interrupt
  have hnext : w.traffic.nextLintRun = w.nextLintRun := rfl
  rw [outcome_start, World.lint, hnext]
  cases w.nextLintRun.leaves? { arguments, directory := l.directory.text } with
  | some octets => exact ⟨⟨rfl, rfl, rfl, hcalm⟩, rfl, rfl⟩
  | none => exact ⟨⟨rfl, rfl, rfl, hcalm⟩, rfl, rfl⟩

theorem obeys_readReport (l : Linter) :
    l.readReport.Obeys fun t res t' => t' = t ∧ ∀ results, res = .ok results ↔
      ∃ report, l.reportValue t.files = .ok report ∧
        (LintResult.ofReport report).outcome.1.toOption = some results := by
  refine (Run.Obeys.reading id l.reportValue fun report =>
    (Run.obeys_ofNoting Failure.ofReportFault (LintResult.ofReport report)).noted fun _ =>
      Run.isQuiet_note _ _ _).imp ?_
  rintro t res t' (⟨e, hvalue, rfl, rfl⟩ | ⟨report, hreport, rfl, rfl⟩)
  · simp [hvalue]
  · simp [hreport, Run.mapError_eq_ok]

theorem isQuiet_noteStatus (ending : Ending) : (noteStatus ending).IsQuiet := by
  unfold noteStatus
  split
  · refine Run.Obeys.after ?_ (Run.isQuiet_note _ _ _)
    split
    · exact Run.isQuiet_note _ _ _
    · exact Run.obeys_pure ()
  · exact Run.obeys_pure ()

theorem obeys_removeReport (l : Linter) :
    l.removeReport.Obeys fun t res t' =>
      (l.removalFault? t.files = none ∧ res = .ok () ∧
          t' = { t with files := t.files.remove l.report }) ∨
        (∃ failure, l.removalFault? t.files = some failure ∧ res = .error failure) ∧ t' = t := by
  intro w
  have hfiles : w.traffic.files = w.files := rfl
  rw [outcome_removeReport, hfiles]
  cases l.removalFault? w.files with
  | none => exact .inl ⟨rfl, rfl, rfl⟩
  | some failure => exact .inr ⟨⟨failure, rfl, rfl⟩, rfl⟩

/-- When there are results of files that are linted. -/
theorem resultsOf?_eq_some_iff {l : Linter} {files : List String} {store after : FileStore}
    {lintRun : LintRun} {results : List LintResult}
    (hlintable : ¬ (lintable files).isEmpty = true) :
    l.resultsOf? files store lintRun = some (after, results) ↔
      after = l.storeAfter files store lintRun ∧ l.removalFault? store = none ∧
      (∃ ending, l.ended (l.commandOn files) lintRun = .ok ending) ∧
      ∃ report, l.reportValue (l.storeAfter files store lintRun) = .ok report ∧
        (LintResult.ofReport report).outcome.1.toOption = some results := by
  have htold : ∀ {α : Type} (x : Except Failure α) (a : α), x.toOption = some a ↔ x = .ok a := by
    intro α x a
    cases x <;> simp [Except.toOption]
  rw [resultsOf?, if_neg hlintable]
  cases l.removalFault? store with
  | some failure => simp
  | none =>
    simp only [Option.isSome_none, Bool.false_eq_true, if_false, Option.bind_eq_bind,
      Option.bind_eq_some_iff, htold]
    constructor
    · rintro ⟨ending, hended, report, hreport, found, hfound, h⟩
      obtain ⟨rfl, rfl⟩ := Prod.mk.inj (Option.some.inj h)
      exact ⟨rfl, trivial, ⟨ending, hended⟩, report, hreport, hfound⟩
    · rintro ⟨rfl, -, ⟨ending, hended⟩, report, hreport, hfound⟩
      exact ⟨ending, hended, report, hreport, results, hfound, rfl⟩

/-- Running the linter sends nothing and gives the results of the report that it leaves. -/
theorem obeys_run (l : Linter) (files : List String) :
    (l.run files).Obeys fun t res t' => IsSilent t t' ∧
      (∀ results, res = .ok results →
        l.resultsOf? files t.files t.nextLintRun = some (t'.files, results)) ∧
      ∀ store results, l.resultsOf? files t.files t.nextLintRun = some (store, results) →
        res = .ok results := by
  unfold run
  by_cases hempty : (lintable files).isEmpty = true
  · simp only [resultsOf?, hempty, if_true]
    refine ((Run.obeys_pure []).after (Run.isQuiet_note _ _ _)).imp ?_
    rintro t res t' ⟨rfl, rfl⟩
    refine ⟨⟨rfl, rfl, rfl, rfl⟩, fun results h => by rw [Except.ok.inj h], ?_⟩
    intro store results h
    rw [(Prod.mk.inj (Option.some.inj h)).2]
  · simp only [if_neg hempty, resultsOf?_eq_some_iff hempty]
    have hlint := (Run.obeys_timed [] "eslint" (l.obeys_start (l.commandFor (lintable files)))).bind
      fun ending => l.obeys_readReport.after (isQuiet_noteStatus ending)
    refine (l.obeys_removeReport.bind fun _ => hlint.after (Run.isQuiet_note _ _ _)).imp ?_
    rintro t res t' (⟨e, ⟨-, h, -⟩ | ⟨⟨failure, hremoval, -⟩, rfl⟩, rfl⟩ |
      ⟨_, _, ⟨hremoval, -, rfl⟩ | ⟨⟨failure, -, h⟩, -⟩, hrest⟩)
    · cases h
    · refine ⟨⟨rfl, rfl, rfl, rfl⟩, fun _ h => (by cases h), ?_⟩
      rintro store results ⟨-, hnone, -⟩
      cases hremoval.symm.trans hnone
    · rcases hrest with ⟨e, ⟨hsilent, hended, -⟩, rfl⟩ |
        ⟨ending, t₁, ⟨hsilent, hended, hfiles⟩, rfl, hresults⟩
      · refine ⟨⟨hsilent.1, hsilent.2, hsilent.3, hsilent.4⟩, fun _ h => (by cases h), ?_⟩
        rintro store results ⟨-, -, ⟨ending, hok⟩, -⟩
        cases hended.trans hok
      · have hstore : t'.files = l.storeAfter files t.files t.nextLintRun := hfiles
        rw [hstore] at hresults ⊢
        refine ⟨⟨hsilent.1, hsilent.2, hsilent.3, hsilent.4⟩, fun results h => ?_, ?_⟩
        · exact ⟨rfl, hremoval, ⟨ending, hended.symm⟩, (hresults results).1 h⟩
        · rintro store results ⟨-, -, -, hread⟩
          exact (hresults results).2 hread
    · cases h

end Linter

end InlineReview
