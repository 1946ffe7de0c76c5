import InlineReview.Proofs.Review.Endings
import InlineReview.Proofs.Review.Matching

/-!
# What is linted and what is commented

A review starts the linter on the changed files under no excluded directory, and goes through the
findings of every result of a report on these files in the changed file that was linted.  So it
skips no result, and asks and comments about files that were linted alone.

* `Reviewer.does_reviewFiles_command`, `Reviewer.does_run_command` — the command that is started.
* `Reviewer.does_reviewFiles_part`, `Reviewer.does_run_part` — what is told, asked and commented.
* `Reviewer.Agrees` — a report and a review of changed files agree.
* `Reviewer.run_agrees` — all of it, for every workspace and every change set.
-/

namespace InlineReview

open InlineReview.Path

/-! ## The command of a run -/

namespace Deed

theorem IsListing.command?_eq {d : Deed} (h : d.IsListing) : d.command? = none := by
  obtain ⟨q, rfl, -⟩ := h
  rfl

theorem IsPublishing.command?_eq {d : Deed} (h : d.IsPublishing) : d.command? = none := by
  obtain ⟨q, run, rfl, -⟩ := h
  rfl

theorem IsReviewing.command?_eq {d : Deed} (h : d.IsReviewing) : d.command? = none := by
  rcases h with rfl | ⟨timeout, q, rfl, -⟩ <;> rfl

end Deed

namespace Reviewer

variable {r : Reviewer} {event : Event} {files : List ChangedFile} {w : World}

theorem starts_postSummary {host : Client} (hremote : host.remote = .codeHost) (s : Settings)
    (commit : Option String) (summary : Summary) :
    (postSummary host s commit summary).Starts [] :=
  (attends_postSummary hremote s commit summary).guards.starts fun _ h => h.command?_eq

theorem starts_reviewResults (hhost : r.host.remote = .codeHost)
    (hmodel : r.model.client.remote = .model) (pull : Int) (commit : Option String)
    (files : List ChangedFile) (results : List LintResult) :
    (r.reviewResults pull commit files results).Starts [] := by
  have hguards : (r.reviewResults pull commit files results).Guards Deed.IsReviewing :=
    Run.Does.imp (goesRound_reviewResults hhost hmodel pull commit files results)
      fun _ _ _ h => ⟨h.1.guarded, h.2.1⟩
  exact hguards.starts fun _ h => h.command?_eq

theorem starts_closing (hhost : r.host.remote = .codeHost) (commit : Option String)
    (comments : List InlineComment) : (r.closing commit comments).Starts [] := by
  unfold closing
  split
  · exact (starts_postSummary hhost _ _ _).bind fun _ => (Run.isMute_pure _).starts
  · exact ((Run.isMute_note _ _ _).bind fun _ => Run.isMute_pure _).starts

/-- Do deeds start the linter on changed files?  Only a cancellation prevents it, or an old report
that cannot be removed. -/
def Launches (r : Reviewer) (files : List ChangedFile) (w : World) (ds : List Deed)
    (res : Except Failure Outcome) : Prop :=
  ds.filterMap Deed.command? = (r.linter.command? (files.map (·.filename))).toList ∨
    ds.filterMap Deed.command? = [] ∧ ∃ failure, res = .error failure ∧
      ((w.token.isCancelled = true ∧ ∃ reason, failure = .cancelled reason) ∨
        r.linter.removalFault? w.files = some failure)

/-- Reviewing changed files starts the linter. -/
theorem does_reviewFiles_command (hhost : r.host.remote = .codeHost)
    (hmodel : r.model.client.remote = .model) (pull : Int) (commit : Option String)
    (files : List ChangedFile) :
    (r.reviewFiles pull commit files).Does (r.Launches files) := by
  have hlint := (r.linter.does_run_command (files.map (·.filename))).timed
    (pullContext r.settings.repository pull) "run_style_checker"
  have hreview := fun results =>
    (starts_reviewResults hhost hmodel pull commit files results).bind (starts_closing hhost commit)
  refine (Run.does_checkCancelled.bind fun _ => hlint.bind hreview).imp ?_
  rintro w ds res (⟨e, ⟨rfl, hstopped⟩, rfl⟩ | ⟨_, before, after, rfl, ⟨rfl, -⟩,
    ⟨e, ⟨started, deeds, ended, rfl, hdeeds⟩, rfl⟩ |
    ⟨results, linted, reviewed, rfl, ⟨started, deeds, ended, rfl, hdeeds⟩, hnothing⟩⟩)
  · cases hcancelled : w.token.isCancelled with
    | false => simp [hcancelled] at hstopped
    | true =>
      rw [hcancelled, if_pos rfl] at hstopped
      exact .inr ⟨rfl, e, rfl, .inl ⟨hcancelled, _, Except.error.inj hstopped⟩⟩
  · refine hdeeds.imp (fun h => ?_) fun ⟨h, failure, hfailed, hremoval⟩ => ?_
    · simpa [List.filterMap_cons, Deed.command?] using h
    · refine ⟨by simpa [List.filterMap_cons, Deed.command?] using h, e, rfl, .inr ?_⟩
      rw [Except.error.inj hfailed]
      exact hremoval
  · obtain h | ⟨-, failure, hfailed, -⟩ := hdeeds
    · refine .inl ?_
      simpa [List.filterMap_cons, Deed.command?, List.filterMap_append, hnothing] using h
    · cases hfailed

theorem does_rest_command (hhost : r.host.remote = .codeHost)
    (hmodel : r.model.client.remote = .model) (pull : Int) (commit : Option String)
    (files : List ChangedFile) :
    (r.rest pull commit files).Does (r.Launches files) := by
  unfold rest
  by_cases hempty : files.isEmpty = true
  · rw [if_pos hempty]
    obtain rfl := List.isEmpty_iff.1 hempty
    refine Run.Does.imp (((starts_postSummary hhost r.settings commit .noFiles).bind fun _ =>
      (Run.isMute_pure Outcome.noFilesChanged).starts).noted _ _ _) ?_
    exact fun _ _ _ h => .inl h
  · rw [if_neg hempty]
    exact does_reviewFiles_command hhost hmodel pull commit files

/-- Can the pages of the changed files be asked for? -/
def CanList (r : Reviewer) (event : Event) (w : World) : Prop :=
  ∃ pull, event.pullRequest = some pull ∧ ∀ k ≤ w.hostReplies.length,
    CodeHost.IsListable r.host r.settings.repository pull.number (k + 1)

/-- A review starts the linter on the changed files, unless these cannot be listed, the run has been
cancelled before or an old report cannot be removed. -/
theorem does_run_command (hhost : r.host.remote = .codeHost)
    (hmodel : r.model.client.remote = .model) (event : Event) :
    (r.run event).Does fun w ds res => ∀ files,
      changedFiles? r.settings.extensions w.hostReplies = some files →
      ds.filterMap Deed.command? = (r.linter.command? (files.map (·.filename))).toList ∨
        ds.filterMap Deed.command? = [] ∧ ∃ failure, res = .error failure ∧
          (r.CanList event w → (w.isCalm = false ∧ ∃ reason, failure = .cancelled reason) ∨
            r.linter.removalFault? w.files = some failure) := by
  cases hpull : event.pullRequest with
  | none =>
    rw [run_eq_throw r hpull]
    refine (Run.does_throw .notPullRequest).imp ?_
    rintro w ds res ⟨rfl, rfl⟩ files -
    refine .inr ⟨rfl, _, rfl, fun hlist => ?_⟩
    obtain ⟨pull, hsome, -⟩ := hlist
    cases hpull.symm.trans hsome
  | some pull =>
    rw [run_eq r hpull]
    have hfetch := Run.Does.and_obeys
      (((attends_fetchChangedFiles hhost r.settings.repository pull.number
        r.settings.extensions).guards.starts fun _ h => h.command?_eq).timed
        (pullContext r.settings.repository pull.number) "fetch_changed_files")
      (Run.obeys_timed _ _ (obeys_fetchChangedFiles hhost r.settings.repository pull.number
        r.settings.extensions))
    refine ((hfetch.bind fun found =>
      does_rest_command hhost hmodel pull.number event.headSha found).noted _ _ _).imp ?_
    rintro w ds res ⟨entries, deeds, rfl, ⟨e, ⟨hnone, qs, -, hagrees⟩, rfl⟩ |
      ⟨found, before, after, rfl, ⟨hnone, qs, ⟨hsent, -⟩, hagrees⟩, hrest⟩⟩ files hfiles
    · refine .inr ⟨hnone, e, rfl, fun hlist => ?_⟩
      obtain ⟨other, hother, hlistable⟩ := hlist
      obtain rfl := Option.some.inj (hpull.symm.trans hother)
      cases (hagrees.none_of_error hlistable).symm.trans hfiles
    · obtain rfl := Option.some.inj (hfiles.symm.trans (hagrees.told_of_ok found rfl))
      have hcommands : (Deed.write entries :: (before ++ after)).filterMap Deed.command? =
          after.filterMap Deed.command? := by
        rw [List.filterMap_cons_none rfl, List.filterMap_append, hnone, List.nil_append]
      rw [hcommands]
      refine hrest.imp_right fun hstopped => ?_
      obtain ⟨hnothing, failure, rfl, hcause⟩ := hstopped
      refine ⟨hnothing, failure, rfl, fun _ => hcause.imp (fun hstop => ?_) fun hremoval => ?_⟩
      · obtain ⟨hcancelled, hreason⟩ := hstop
        have hcalm : ((w.after [.write entries]).after before).traffic.isCalm = w.isCalm := by
          rw [hsent, Traffic.isCalm_sendAll]
          rfl
        exact ⟨hcalm.symm.trans (World.isCalm_eq_false_of_isCancelled hcancelled), hreason⟩
      · have hsame : ((w.after [.write entries]).after before).traffic.files = w.files := by
          rw [hsent, Traffic.files_sendAll]
          rfl
        rwa [← hsame]

/-! ## What is told, asked and commented -/

/-- Is a deed one of a review whose linter gives these results? -/
def IsPart (r : Reviewer) (commit : Option String) (files : List ChangedFile)
    (results : List LintResult) (d : Deed) : Prop :=
  d.IsListing ∨ d.IsLinting r.linter ∨ d.IsPublishing ∨ r.ConcernsResults commit files results d

/-- Do deeds belong to such a review, with no entry that tells of a skip? -/
def ArePart (r : Reviewer) (commit : Option String) (files : List ChangedFile)
    (results : List LintResult) (ds : List Deed) : Prop :=
  ∀ d ∈ ds, d.IsWithin Entry.TellsElse (r.IsPart commit files results)

theorem keeps_closing (hhost : r.host.remote = .codeHost) (commit : Option String)
    (files : List ChangedFile) (results : List LintResult) (comments : List InlineComment) :
    (r.closing commit comments).Keeps Entry.TellsElse (r.IsPart commit files results) := by
  unfold closing
  split
  · exact (keeps_postSummary hhost _ _ _ fun q run _ _ _ _ hq hpurpose =>
      .inr (.inr (.inl ⟨q, run, rfl, hq, hpurpose⟩))).bind fun _ => Run.keeps_pure _
  · exact (Run.keeps_note (Entry.tellsElse_of_level (by decide))).bind fun _ => Run.keeps_pure _

/-- Results that are all taken for changed files are reviewed without a skip. -/
theorem does_results_part (hhost : r.host.remote = .codeHost)
    (hmodel : r.model.client.remote = .model) (pull : Int) (commit : Option String)
    (files : List ChangedFile) (results : List LintResult) :
    (r.reviewResults pull commit files results >>= r.closing commit).Does fun _ ds _ =>
      AreTaken r.settings.workspace files results → r.ArePart commit files results ds := by
  by_cases htaken : AreTaken r.settings.workspace files results
  · have hresults := (keeps_reviewResults hhost hmodel pull commit files htaken).imp
      (fun _ h => h) fun d h => (.inr (.inr (.inr h)) : r.IsPart commit files results d)
    exact Run.Does.imp (hresults.bind (keeps_closing hhost commit files results))
      fun _ _ _ h _ => h
  · exact Run.Does.imp ((starts_reviewResults hhost hmodel pull commit files results).bind
      (starts_closing hhost commit)) fun _ _ _ _ h => absurd h htaken

theorem does_reviewFiles_part (hhost : r.host.remote = .codeHost)
    (hmodel : r.model.client.remote = .model) (pull : Int) (commit : Option String)
    (files : List ChangedFile) :
    (r.reviewFiles pull commit files).Does fun w ds _ =>
      AreTaken r.settings.workspace files (r.resultsFor files w) →
        r.ArePart commit files (r.resultsFor files w) ds := by
  have hrun : (r.linter.run (files.map (·.filename))).Keeps Entry.TellsElse
      (Deed.IsLinting r.linter) := r.linter.keeps_run (.inl rfl) (.inr ⟨_, rfl⟩)
  have hlint := Run.Does.and_obeys
    (hrun.timedElse (pullContext r.settings.repository pull) "run_style_checker")
    (Run.obeys_timed _ _ (r.linter.obeys_run (files.map (·.filename))))
  refine (Run.does_checkCancelled.bind fun _ => hlint.bind
    (does_results_part hhost hmodel pull commit files)).imp ?_
  have hpoll : ∀ results, r.ArePart commit files results [.poll] := fun results d hd => by
    rw [List.mem_singleton.1 hd]
    exact .inr (.inr (.inr (.inl rfl)))
  have hlints : ∀ results {ds : List Deed},
      (∀ d ∈ ds, d.IsWithin Entry.TellsElse (Deed.IsLinting r.linter)) →
        r.ArePart commit files results ds :=
    fun results ds h d hd => (h d hd).imp (fun _ h => h) fun _ h => .inr (.inl h)
  rintro w ds res (⟨e, ⟨rfl, -⟩, -⟩ | ⟨_, before, after, rfl, ⟨rfl, -⟩,
    ⟨e, ⟨hwithin, -⟩, -⟩ | ⟨results, linted, reviewed, rfl, ⟨hwithin, -, hresults, -⟩, hreview⟩⟩)
    htaken
  · exact hpoll _
  · exact List.forall_mem_append.2 ⟨hpoll _, hlints _ hwithin⟩
  · obtain rfl : results = r.resultsFor files w := Linter.eq_resultsRead (hresults results rfl)
    exact List.forall_mem_append.2
      ⟨hpoll _, List.forall_mem_append.2 ⟨hlints _ hwithin, hreview htaken⟩⟩

theorem does_rest_part (hhost : r.host.remote = .codeHost)
    (hmodel : r.model.client.remote = .model) (pull : Int) (commit : Option String)
    (files : List ChangedFile) :
    (r.rest pull commit files).Does fun w ds _ =>
      AreTaken r.settings.workspace files (r.resultsFor files w) →
        r.ArePart commit files (r.resultsFor files w) ds := by
  unfold rest
  by_cases hempty : files.isEmpty = true
  · rw [if_pos hempty]
    have hsummary : (postSummary r.host r.settings commit .noFiles).Keeps Entry.TellsElse
        Deed.IsPublishing :=
      keeps_postSummary hhost _ _ _ fun q run _ _ _ _ hq hpurpose => ⟨q, run, rfl, hq, hpurpose⟩
    refine Run.Does.imp ((Run.keeps_note (Entry.tellsElse_of_level (by decide))).bind fun _ =>
      hsummary.bind fun _ => Run.keeps_pure Outcome.noFilesChanged) ?_
    exact fun _ _ _ h _ d hd => (h d hd).imp (fun _ h => h) fun _ h => .inr (.inr (.inl h))
  · rw [if_neg hempty]
    exact does_reviewFiles_part hhost hmodel pull commit files

/-- If the results of the linter are all taken for changed files, a review skips none of them, and
asks and comments about those files alone. -/
theorem does_run_part (hhost : r.host.remote = .codeHost)
    (hmodel : r.model.client.remote = .model) (event : Event) :
    (r.run event).Does fun w ds _ => ∀ files,
      changedFiles? r.settings.extensions w.hostReplies = some files →
      AreTaken r.settings.workspace files (r.resultsFor files w) →
        r.ArePart event.headSha files (r.resultsFor files w) ds := by
  cases hpull : event.pullRequest with
  | none =>
    rw [run_eq_throw r hpull]
    refine (Run.does_throw .notPullRequest).imp ?_
    rintro w ds res ⟨rfl, -⟩ files - -
    exact fun d hd => absurd hd List.not_mem_nil
  | some pull =>
    rw [run_eq r hpull]
    have hstarting : (Run.note (pullContext r.settings.repository pull.number) .info
        "=== PROCESSOR: Starting lint review ===").Keeps Entry.TellsElse Deed.IsListing :=
      Run.keeps_note (Entry.tellsElse_of_level (by decide))
    have hlisting : (fetchChangedFiles r.host r.settings.repository pull.number
        r.settings.extensions).Keeps Entry.TellsElse Deed.IsListing :=
      keeps_fetchChangedFiles hhost (fun _ h => h) _ _ _
    have hnote := Run.Does.and_obeys hstarting (Run.isQuiet_note _ _ _)
    have hfetch := Run.Does.and_obeys
      (hlisting.timedElse (pullContext r.settings.repository pull.number) "fetch_changed_files")
      (Run.obeys_timed _ _ (obeys_fetchChangedFiles hhost r.settings.repository pull.number
        r.settings.extensions))
    have hlists : ∀ files results {ds : List Deed},
        (∀ d ∈ ds, d.IsWithin Entry.TellsElse Deed.IsListing) →
          r.ArePart event.headSha files results ds :=
      fun files results ds h d hd => (h d hd).imp (fun _ h => h) fun _ h => .inl h
    refine (hnote.bind fun _ => hfetch.bind fun found =>
      does_rest_part hhost hmodel pull.number event.headSha found).imp ?_
    rintro w ds res (⟨e, ⟨-, h, -⟩, -⟩ | ⟨_, noted, others, rfl, ⟨hnoted, -, hquiet⟩,
      ⟨e, ⟨hlisted, -⟩, -⟩ | ⟨found, listed, deeds, rfl,
        ⟨hlisted, qs, ⟨hsent, -⟩, hagrees⟩, hrest⟩⟩) files hfiles htaken
    · cases h
    · exact List.forall_mem_append.2 ⟨hlists _ _ hnoted, hlists _ _ hlisted⟩
    · rw [hquiet] at hsent hagrees
      obtain rfl := Option.some.inj (hfiles.symm.trans (hagrees.told_of_ok found rfl))
      rw [resultsFor_congr hsent] at hrest
      exact List.forall_mem_append.2 ⟨hlists _ _ hnoted,
        List.forall_mem_append.2 ⟨hlists _ _ hlisted, hrest htaken⟩⟩

end Reviewer

/-! ## Whole reviews -/

/-- The linter of some settings. -/
def Settings.linterPart (s : Settings) : Linter where
  program := s.linter
  config := s.linterConfig
  directory := s.linterPlace
  workspace := s.workspace
  report := s.reportPlace

/-- The command that lints changed files under some settings: it names those that lie under no
excluded directory, each in the workspace and all in their order.  There is none without such a
file. -/
def Settings.lintCommand? (s : Settings) (names : List String) : Option Command :=
  match names.filter fun name => ! Linter.isExcluded name with
  | [] => none
  | linted => some {
      arguments := [s.linter] ++ linted.map (fun name => (s.workspace.join (ofText name)).text) ++
        ["--format", "json", "-c", s.linterConfig, "-o", s.reportPlace.text]
      directory := s.linterPlace.text }

/-- The entries of the report on changed files under some settings. -/
def Settings.entriesFor (s : Settings) (files : List ChangedFile) (w : World) : List Json :=
  s.linterPart.entriesRead (files.map (·.filename)) w.files w.nextLintRun

namespace Reviewer

variable {r : Reviewer} {event : Event} {files : List ChangedFile} {w : World} {s : Settings}

theorem linter_of_settings (h : ofSettings s = .ok r) : r.linter = s.linterPart := by
  obtain ⟨host, model, -, -, rfl⟩ := exists_of_settings h
  rfl

theorem command?_linterPart {names : List String} (h : ∀ name ∈ names, IsClean name) :
    s.linterPart.command? names = s.lintCommand? names := by
  rw [Linter.command?, Linter.commandOn, Linter.lintable_eq h, Settings.lintCommand?]
  split
  · rename_i hempty
    rw [List.isEmpty_iff.1 hempty]
  · rename_i hsome
    split
    · rename_i hnone
      rw [hnone] at hsome
      exact absurd rfl hsome
    · rfl

/-- Is the command of a run started, if it has one?  If the changed files can be listed, only a
cancellation prevents it, or an old report that cannot be removed. -/
def StartsCommand (r : Reviewer) (event : Event) (command? : Option Command) (w : World)
    (res : Except Failure Outcome) (w' : World) : Prop :=
  w'.commands = w.commands ++ command?.toList ∨
    w'.commands = w.commands ∧ ∃ failure, res = .error failure ∧
      (r.CanList event w → (w.isCalm = false ∧ ∃ reason, failure = .cancelled reason) ∨
        r.linter.removalFault? w.files = some failure)

/-- Do the entries of a report name only changed files that are linted? -/
def NamesLinted (workspace : Path) (files : List ChangedFile) (entries : List Json) : Prop :=
  ∀ entry ∈ entries, ∀ path, LintResult.fileOf? entry = some path →
    ∃ file ∈ files, Linter.isExcluded file.filename = false ∧
      Linter.LeadsTo workspace file.filename path

/-- Was a result made from a changed file?  The file is one that is linted, and the path of the
result leads to it and to no other name. -/
structure IsMadeFrom (workspace : Path) (files : List ChangedFile) (result : LintResult)
    (file : ChangedFile) : Prop where
  mem : file ∈ files
  linted : Linter.isExcluded file.filename = false
  leads : Linter.LeadsTo workspace file.filename result.file
  unique : ∀ other ∈ files, Linter.LeadsTo workspace other.filename result.file →
    other.filename = file.filename

/-- Has a review that ends with an outcome asked about each finding of matched results that its file
shows, and posted the comments that the answers give, under the path of the file and at the place
of the line in its patch? -/
def Follows (r : Reviewer) (event : Event) (store : FileStore) (m : Matching) (w : World)
    (outcome : Outcome) (w' : World) : Prop :=
  ∃ pull xs qs pages closing, event.pullRequest = some pull ∧ remarksMatched store m = .ok xs ∧
    outcome.comments = (r.steps w.modelReplies xs).filterMap Step.comment ∧
    w'.sent = w.sent ++ qs ∧
    qs.map Request.purpose = pages ++ ((r.steps w.modelReplies xs).flatMap
      (r.purposesOf pull.number event.headSha) ++ closing) ∧
    (∀ p ∈ pages, p = .listing) ∧ ∀ p ∈ closing, ∃ run, p = .checkRun run

/-- Do a report and the review of changed files agree?  A matching tells the changed file of each
result. -/
structure Agrees (r : Reviewer) (event : Event) (files : List ChangedFile) (entries : List Json)
    (m : Matching) (w : World) (res : Except Failure Outcome) (w' : World) : Prop where
  /-- Every entry with a path is matched. -/
  results_eq : m.map Prod.snd = entries.filterMap LintResult.resultIn?
  /-- It is matched to the changed file that it was made from. -/
  madeFrom : ∀ file result, (file, result) ∈ m →
    IsMadeFrom r.settings.workspace files result file
  /-- The review goes through its findings in that file, as it would if it were told the matching. -/
  reviewed : (r.runWith event fun pull _ _ =>
    r.reviewMatched pull.number event.headSha m).outcome w = (res, w')
  /-- What it asks and comments are the steps for the remarks on these findings. -/
  followed : ∀ outcome, res = .ok outcome → r.Follows event
    (r.linter.storeAfter (files.map (·.filename)) w.files w.nextLintRun) m w outcome w'
  /-- No entry tells of a skip. -/
  unskipped : ∃ es, w'.journal = w.journal ++ es ∧ ∀ e ∈ es, ¬ e.IsSkip
  /-- What is sent asks for pages, publishes check runs, or concerns the findings of a matched
  result under the path of its file. -/
  sent : ∃ qs, w'.sent = w.sent ++ qs ∧ ∀ q ∈ qs,
    (q.remote = .codeHost ∧ (q.purpose = .listing ∨ ∃ run, q.purpose = .checkRun run)) ∨
      ∃ file result, (file, result) ∈ m ∧ q.Concerns event.headSha file.filename result.findings

theorem fileOf?_of_resultIn? {entry : Json} {result : LintResult}
    (h : LintResult.resultIn? entry = some result) :
    LintResult.fileOf? entry = some result.file := by
  obtain ⟨path, hpath, rfl⟩ := Option.map_eq_some_iff.1 h
  exact hpath

section Names

variable {workspace : String} {entries : List Json}

/-- Results of entries that name only files that are linted are taken for files that they were made
from. -/
theorem exists_taken (hclean : ∀ file ∈ files, IsClean file.filename)
    (hnames : NamesLinted (ofText workspace) files entries) {result : LintResult}
    (hresult : result ∈ entries.filterMap LintResult.resultIn?) :
    ∃ file, takenFor? (ofText workspace) files result = some file ∧
      IsMadeFrom (ofText workspace) files result file := by
  obtain ⟨entry, hentry, hresult⟩ := List.mem_filterMap.1 hresult
  obtain ⟨named, hnamed, hlinted, hleads⟩ :=
    hnames entry hentry result.file (fileOf?_of_resultIn? hresult)
  obtain ⟨file, hfile, htaken, hname⟩ := takenFor?_of_leadsTo hnamed (hclean named hnamed) hleads
  rw [← hname] at hlinted hleads
  exact ⟨file, htaken, hfile, hlinted, hleads, fun other hother hother' =>
    hleads.unique hother' (hclean file hfile) (hclean other hother)⟩

theorem areTaken_of_names (hclean : ∀ file ∈ files, IsClean file.filename)
    (hnames : NamesLinted (ofText workspace) files entries) :
    AreTaken (ofText workspace) files (entries.filterMap LintResult.resultIn?) := by
  intro result hresult
  obtain ⟨file, htaken, -⟩ := exists_taken hclean hnames hresult
  rw [htaken, Option.isSome_some]

end Names

/-- The requests of a review. -/
theorem IsPart.request {commit : Option String} {results : List LintResult} {d : Deed} {q : Request}
    (h : r.IsPart commit files results d) (hq : d.request? = some q) :
    (q.remote = .codeHost ∧ (q.purpose = .listing ∨ ∃ run, q.purpose = .checkRun run)) ∨
      ∃ result ∈ results, ∃ file, takenFor? r.settings.workspace files result = some file ∧
        q.Concerns commit file.filename result.findings := by
  rcases h with ⟨p, rfl, hremote, hpurpose⟩ | hlinting | ⟨p, run, rfl, hremote, hpurpose⟩ |
    rfl | ⟨timeout, p, rfl, result, hresult, file, htaken, hconcerns⟩
  · obtain rfl := Option.some.inj hq
    exact .inl ⟨hremote, .inl hpurpose⟩
  · rcases hlinting with rfl | ⟨arguments, rfl⟩ <;> cases hq
  · obtain rfl := Option.some.inj hq
    exact .inl ⟨hremote, .inr ⟨run, hpurpose⟩⟩
  · cases hq
  · obtain rfl := Option.some.inj hq
    exact .inr ⟨result, hresult, file, htaken, hconcerns⟩

/-- The remarks of a review, told from a matching of its results. -/
theorem remarks?_matched {m : Matching} {xs : List Remark}
    (hfiles : changedFiles? r.settings.extensions w.hostReplies = some files)
    (hlookup : IsLookup r.settings.workspace files m)
    (hresults : m.map Prod.snd = r.resultsFor files w)
    (hremarks : r.remarks? w.traffic = some xs) :
    remarksMatched (r.linter.storeAfter (files.map (·.filename)) w.files w.nextLintRun) m =
      .ok xs := by
  have hfor : r.remarksFor? w.traffic files = some xs := by
    rw [← hremarks, remarks?]
    show _ = (changedFiles? r.settings.extensions w.hostReplies).bind _
    rw [hfiles]
    rfl
  obtain ⟨⟨store, results⟩, hlints, htold⟩ := Option.bind_eq_some_iff.1 hfor
  have hsame : results = m.map Prod.snd := (Linter.eq_resultsRead hlints).trans hresults.symm
  by_cases hempty : (Linter.lintable (files.map (·.filename))).isEmpty = true
  · rw [Linter.resultsOf?, if_pos hempty] at hlints
    obtain ⟨rfl, rfl⟩ := Prod.mk.inj (Option.some.inj hlints)
    obtain rfl := List.map_eq_nil_iff.1 hsame.symm
    exact Run.toOption_eq_some.1 htold
  · obtain ⟨rfl, -⟩ := (Linter.resultsOf?_eq_some_iff hempty).1 hlints
    rw [← remarks_matched hlookup, ← hsame]
    exact Run.toOption_eq_some.1 htold

/-- A review whose results are matched follows the steps for their remarks. -/
theorem follows_of_matched {m : Matching} (hhost : r.host.remote = .codeHost)
    (hmodel : r.model.client.remote = .model)
    (hfiles : changedFiles? r.settings.extensions w.hostReplies = some files)
    (hlookup : IsLookup r.settings.workspace files m)
    (hresults : m.map Prod.snd = r.resultsFor files w) {outcome : Outcome} {w' : World}
    (hrun : (r.run event).outcome w = (.ok outcome, w')) :
    r.Follows event (r.linter.storeAfter (files.map (·.filename)) w.files w.nextLintRun) m w
      outcome w' := by
  obtain ⟨pull, hpull⟩ := pullRequest_of_run hrun
  have hobeys := obeys_steps hhost hmodel hpull w
  rw [hrun] at hobeys
  obtain ⟨steps, qs, pages, closing, hsteps, hsent, hcomments, hpurposes, hpages, hclosing, -⟩ :=
    hobeys outcome rfl
  obtain ⟨xs, hxs, rfl⟩ := Option.map_eq_some_iff.1 hsteps
  exact ⟨pull, xs, qs, pages, closing, hpull, remarks?_matched hfiles hlookup hresults hxs,
    hcomments, hsent, hpurposes, hpages, hclosing⟩

/-- What deeds send that are part of a review whose results are matched. -/
theorem sent_of_arePart {m : Matching} {ds : List Deed}
    (hlookup : IsLookup r.settings.workspace files m)
    (hpart : r.ArePart event.headSha files (m.map Prod.snd) ds) :
    ∃ qs, (w.after ds).sent = w.sent ++ qs ∧ ∀ q ∈ qs,
      (q.remote = .codeHost ∧ (q.purpose = .listing ∨ ∃ run, q.purpose = .checkRun run)) ∨
        ∃ file result, (file, result) ∈ m ∧
          q.Concerns event.headSha file.filename result.findings := by
  refine ⟨_, w.sent_after ds, fun q hq => ?_⟩
  obtain ⟨d, hdq, hd⟩ := Deed.forall_requests hpart q hq
  refine (hd.request hdq).imp_right ?_
  rintro ⟨result, hresult, file, htaken, hconcerns⟩
  obtain ⟨⟨matched, _⟩, hmem, rfl⟩ := List.mem_map.1 hresult
  obtain rfl := Option.some.inj ((hlookup matched _ hmem).symm.trans htaken)
  exact ⟨matched, _, hmem, hconcerns⟩

/-- Whatever the spelling of the workspace, a review of changed files with clean names starts the
linter on exactly those of them that lie under no excluded directory, and on none if there is none.
Every report that names only files of this command agrees with the review: its entries are matched
to the files that they were made from, the review goes through the findings of each in that file,
none is skipped, and nothing is asked or commented about a file that is not linted. -/
theorem run_agrees {workspace : String} (event : Event) (hreviewer : ofSettings s = .ok r)
    (hworkspace : s.workspace = ofText workspace)
    (hfiles : changedFiles? s.extensions w.hostReplies = some files)
    (hclean : ∀ file ∈ files, IsClean file.filename) :
    ∃ res w', (r.run event).outcome w = (res, w') ∧
      r.StartsCommand event (s.lintCommand? (files.map (·.filename))) w res w' ∧
      (NamesLinted s.workspace files (s.entriesFor files w) →
        ∃ m, r.Agrees event files (s.entriesFor files w) m w res w') := by
  obtain ⟨hsettings, hhost, hmodel⟩ := parts_of_settings hreviewer
  have hlinter := linter_of_settings hreviewer
  have hroot : r.settings.workspace = ofText workspace := by rw [hsettings, hworkspace]
  rw [← hsettings] at hfiles
  refine ⟨((r.run event).outcome w).1, ((r.run event).outcome w).2, rfl, ?_, fun hnames => ?_⟩
  · obtain ⟨ds, hafter, hcommand⟩ := does_run_command hhost hmodel event w
    have hcommand := hcommand files hfiles
    rw [hlinter, command?_linterPart (by simpa using hclean), ← hlinter] at hcommand
    rw [StartsCommand, hafter, World.commands_after]
    rcases hcommand with hcommand | ⟨hnothing, hstopped⟩
    · rw [hcommand]
      exact .inl rfl
    · rw [hnothing]
      exact .inr ⟨List.append_nil _, hstopped⟩
  · have hresultsFor : r.resultsFor files w =
        (s.entriesFor files w).filterMap LintResult.resultIn? := by
      rw [resultsFor, hlinter]
      rfl
    rw [hworkspace] at hnames
    have htaken := areTaken_of_names hclean hnames
    obtain ⟨m, hm, hlookup⟩ := exists_matching htaken
    have hresults : m.map Prod.snd = r.resultsFor files w := hm.trans hresultsFor.symm
    rw [← hroot] at hlookup
    obtain ⟨ds, hafter, hpart⟩ := does_run_part hhost hmodel event w
    have hpart := hpart files hfiles (by rwa [hresultsFor, hroot])
    rw [← hresults] at hpart
    refine ⟨m, hm, fun file result hmem => ?_, ?_, fun outcome hended => ?_, ?_, ?_⟩
    · have hresult : result ∈ (s.entriesFor files w).filterMap LintResult.resultIn? := by
        rw [← hm]
        exact List.mem_map_of_mem hmem
      obtain ⟨taken, htaken, hmade⟩ := exists_taken hclean hnames hresult
      rw [← hroot] at htaken hmade
      obtain rfl := Option.some.inj ((hlookup file result hmem).symm.trans htaken)
      exact hmade
    · exact (outcome_run_matched hhost event hfiles hlookup hresults).symm
    · exact follows_of_matched hhost hmodel hfiles hlookup hresults (Prod.ext hended rfl)
    · rw [hafter]
      exact ⟨_, w.journal_after ds, Deed.forall_entries hpart⟩
    · rw [hafter]
      exact sent_of_arePart hlookup hpart

/-- A world in which two files are changed, one of them of the action, and the linter reports the
other one by a detour. -/
def mixedWorld : World where
  files := [({ twoSlashes := false, components := ["w", "a.js"] }, .content [0x78])]
  hostReplies := [{ result := .ok (Response.success
    ("[\x7b\"filename\":\"action/b.js\"\x7d," ++
      "\x7b\"filename\":\"a.js\",\"patch\":\"@@ -0,0 +1 @@\\n+x\"\x7d]")) }]
  lintRuns := [{ report := some (Text.Utf8.encode
    "[\x7b\"filePath\":\"/w/src/../a.js\",\"messages\":[\x7b\"line\":1\x7d]\x7d]".toList) }]

theorem changedFiles?_mixedWorld :
    (changedFiles? sampleSettings.extensions mixedWorld.hostReplies).map (·.map (·.filename)) =
      some ["action/b.js", "a.js"] := by
  decide +kernel

theorem entriesRead_mixedWorld :
    (sampleSettings.linterPart.entriesRead ["action/b.js", "a.js"] mixedWorld.files
      mixedWorld.nextLintRun).all (fun entry => match LintResult.fileOf? entry with
        | some (.str path) => path == "/w/src/../a.js"
        | _ => false) = true := by
  decide +kernel

theorem length_resultsRead_mixedWorld :
    (sampleSettings.linterPart.resultsRead ["action/b.js", "a.js"] mixedWorld.files
      mixedWorld.nextLintRun).length = 1 := by
  decide +kernel

theorem lintCommand?_mixedWorld :
    (sampleSettings.lintCommand? ["action/b.js", "a.js"]).toList.map Command.arguments =
      [["l", "/w/a.js", "--format", "json", "-c", "c", "-o", "/w/eslint-report.json"]] := by
  decide +kernel

theorem canList_mixedWorld (h : ofSettings sampleSettings = .ok r) :
    r.CanList sampleEvent mixedWorld := by
  obtain ⟨host, model, hhost, -, rfl⟩ := exists_of_settings h
  have hpages : (CodeHost.client sampleSettings.hostBase sampleSettings.hostToken
      CodeHost.defaultUserAgent).toOption.all (fun host => [1, 2].all fun page =>
        (CodeHost.listPage host "o/r" 1 page).request.toOption.any fun q =>
          Base.hasKind q.url.toList) = true := by
    decide +kernel
  rw [hhost] at hpages
  refine ⟨samplePullRequest, rfl, fun k hk => isListable_iff.2 ?_⟩
  refine List.all_eq_true.1 hpages (k + 1) ?_
  rcases Nat.le_one_iff_eq_zero_or_eq_one.1 hk with rfl | rfl <;> simp

/-- The file of the action is left out, and the report agrees with the review of the other one, to
which its result is matched. -/
theorem run_mixedWorld :
    ∃ r files res w', ofSettings sampleSettings = .ok r ∧ sampleSettings.workspace = ofText "/w" ∧
      changedFiles? sampleSettings.extensions mixedWorld.hostReplies = some files ∧
      (∀ file ∈ files, IsClean file.filename) ∧
      NamesLinted sampleSettings.workspace files (sampleSettings.entriesFor files mixedWorld) ∧
      (r.run sampleEvent).outcome mixedWorld = (res, w') ∧
      w'.commands.map Command.arguments =
        [["l", "/w/a.js", "--format", "json", "-c", "c", "-o", "/w/eslint-report.json"]] ∧
      ∃ m : Matching, m.map (fun pair => pair.1.filename) = ["a.js"] ∧
        r.Agrees sampleEvent files (sampleSettings.entriesFor files mixedWorld) m mixedWorld res
          w' := by
  obtain ⟨r, -, -, hreviewer, -⟩ := Action.reviewer_sample
  obtain ⟨files, hfiles, hfilenames⟩ := Option.map_eq_some_iff.1 changedFiles?_mixedWorld
  have hclean : ∀ file ∈ files, IsClean file.filename := by
    have hall : ∀ name ∈ files.map (·.filename), IsClean name := by
      rw [hfilenames]
      decide
    exact fun file hfile => hall _ (List.mem_map_of_mem hfile)
  have hnames : NamesLinted sampleSettings.workspace files
      (sampleSettings.entriesFor files mixedWorld) := by
    intro entry hentry path hpath
    have hread := entriesRead_mixedWorld
    rw [← hfilenames] at hread
    have hfile : path = .str "/w/src/../a.js" := by
      have hone := List.all_eq_true.1 hread entry hentry
      rw [hpath] at hone
      cases path with
      | str s => rw [eq_of_beq hone]
      | _ => cases hone
    have hmem : "a.js" ∈ files.map (·.filename) := by simp [hfilenames]
    obtain ⟨file, hmem, hname⟩ := List.mem_map.1 hmem
    refine ⟨file, hmem, ?_, _, hfile, by decide, ?_⟩
    · rw [hname]
      decide
    · rw [hname]
      decide
  have hworkspace : sampleSettings.workspace = ofText "/w" := by decide
  obtain ⟨res, w', hrun, hcommand, hagrees⟩ :=
    run_agrees sampleEvent hreviewer hworkspace hfiles hclean
  obtain ⟨m, hagrees⟩ := hagrees hnames
  refine ⟨r, files, res, w', hreviewer, hworkspace, hfiles, hclean, hnames, hrun, ?_, m, ?_,
    hagrees⟩
  · rcases hcommand with hcommand | ⟨-, failure, -, hstopped⟩
    · rw [hcommand, hfilenames, List.map_append, lintCommand?_mixedWorld]
      rfl
    · rcases hstopped (canList_mixedWorld hreviewer) with ⟨hstormy, -⟩ | hremoval
      · cases hstormy
      · rw [linter_of_settings hreviewer] at hremoval
        cases hremoval
  · have hlength : m.length = 1 := by
      have hread := length_resultsRead_mixedWorld
      rw [← hfilenames] at hread
      rw [← hread, ← List.length_map (f := Prod.snd), hagrees.results_eq]
      rfl
    obtain ⟨⟨file, result⟩, rfl⟩ := List.length_eq_one_iff.1 hlength
    obtain ⟨hfile, hlinted, -, -⟩ := hagrees.madeFrom file result (by simp)
    have hname : file.filename ∈ ["action/b.js", "a.js"] := by
      rw [← hfilenames]
      exact List.mem_map_of_mem hfile
    simp only [List.mem_cons, List.not_mem_nil, or_false] at hname
    rcases hname with hname | hname
    · rw [hname] at hlinted
      exact absurd hlinted (by decide)
    · rw [List.map_singleton, hname]

end Reviewer

end InlineReview
