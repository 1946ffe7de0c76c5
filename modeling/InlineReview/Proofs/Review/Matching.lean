import InlineReview.Proofs.Lint.Commands
import InlineReview.Proofs.Review.Comments
import InlineReview.Proofs.Review.Skipping

/-!
# Results and the files that they were made from

A review looks up the changed file of each result.  A `Matching` tells the file beforehand.  If it
tells for each result what the lookup gives, a review does the same as one without any lookup, which
goes through the findings of each result in the file beside it, and its remarks are those on these
findings.

* `Reviewer.takenFor?_of_leadsTo` — the changed file for which a result is taken.
* `Reviewer.exists_matching` — results that are all taken have a matching.
* `Reviewer.outcome_run_matched` — a review without any lookup.
* `Reviewer.remarks_matched` — its remarks.
-/

namespace InlineReview

open InlineReview.Path

/-- What follows a success matters only where there is one. -/
theorem Run.outcome_bind_congr {α β : Type} {x : Run α} {f g : α → Run β} {w : World}
    (h : ∀ a w₁, x.outcome w = (.ok a, w₁) → (f a).outcome w₁ = (g a).outcome w₁) :
    (x >>= f).outcome w = (x >>= g).outcome w := by
  rcases hx : x.outcome w with ⟨e | a, w₁⟩
  · rw [outcome_bind_error hx, outcome_bind_error hx]
  · rw [outcome_bind_ok hx, outcome_bind_ok hx, h a w₁ hx]

/-- Results of the linter, each beside a changed file. -/
abbrev Matching := List (ChangedFile × LintResult)

namespace Reviewer

variable {r : Reviewer} {files : List ChangedFile} {results : List LintResult} {m : Matching}
  {w : World}

/-! ## Taken results -/

/-- The changed file for which a result is taken that leads to a changed file: one of its name. -/
theorem takenFor?_of_leadsTo {workspace : String} {file : ChangedFile} {result : LintResult}
    (hfile : file ∈ files) (hclean : IsClean file.filename)
    (h : Linter.LeadsTo (ofText workspace) file.filename result.file) :
    ∃ taken ∈ files, takenFor? (ofText workspace) files result = some taken ∧
      taken.filename = file.filename := by
  have hsome : (fileNamed? files file.filename).isSome = true := by
    rw [fileNamed?, List.find?_isSome]
    exact ⟨file, by simpa using hfile, by simp⟩
  obtain ⟨taken, htaken⟩ := Option.isSome_iff_exists.1 hsome
  obtain ⟨hname, hmem⟩ := filename_of_fileNamed? htaken
  refine ⟨taken, hmem, ?_, hname⟩
  rw [takenFor?, h.placeOfReported_eq hclean]
  exact htaken

/-- Does a matching tell for each result what the lookup gives? -/
def IsLookup (workspace : Path) (files : List ChangedFile) (m : Matching) : Prop :=
  ∀ file result, (file, result) ∈ m → takenFor? workspace files result = some file

/-- Results that are all taken have a matching. -/
theorem exists_matching {workspace : Path} (h : AreTaken workspace files results) :
    ∃ m : Matching, m.map Prod.snd = results ∧ IsLookup workspace files m := by
  induction results with
  | nil => exact ⟨[], rfl, fun _ _ hmem => absurd hmem List.not_mem_nil⟩
  | cons result rest ih =>
    obtain ⟨m, hresults, hlookup⟩ := ih fun other hother => h other (by simp [hother])
    obtain ⟨file, hfile⟩ := Option.isSome_iff_exists.1 (h result (by simp))
    refine ⟨(file, result) :: m, by rw [List.map_cons, hresults], fun file' result' hmem => ?_⟩
    rcases List.mem_cons.1 hmem with heq | hmem
    · obtain ⟨rfl, rfl⟩ := Prod.mk.inj heq
      exact hfile
    · exact hlookup file' result' hmem

/-! ## Reviews without a lookup -/

/-- Reviews the findings of results, those of each in the changed file beside it. -/
def reviewMatched (r : Reviewer) (pull : Int) (commit : Option String) :
    Matching → Run (List InlineComment)
  | [] => pure []
  | (file, result) :: rest => do
    let cs ← r.reviewFindings pull commit file.filename file result.findings
    let ds ← r.reviewMatched pull commit rest
    pure (cs ++ ds)

/-- What a review does once it has the changed files, if it goes through the results of the linter
in a given way. -/
def restWith (r : Reviewer) (pull : Int) (commit : Option String) (files : List ChangedFile)
    (review : List LintResult → Run (List InlineComment)) : Run Outcome := do
  if files.isEmpty then
    Run.note (pullContext r.settings.repository pull) .info
      "No JS/TS files changed, skipping linting."
    postSummary r.host r.settings commit .noFiles
    pure .noFilesChanged
  else
    Run.checkCancelled
    let results ← Run.timed (pullContext r.settings.repository pull) "run_style_checker"
      (r.linter.run (files.map (·.filename)))
    let comments ← review results
    r.closing commit comments

/-- A review of the pull request of an event that goes through the results of the linter in a given
way. -/
def runWith (r : Reviewer) (event : Event)
    (review : PullRequest → List ChangedFile → List LintResult → Run (List InlineComment)) :
    Run Outcome := do
  match event.pullRequest with
  | none => throw .notPullRequest
  | some pull =>
    Run.note (pullContext r.settings.repository pull.number) .info
      "=== PROCESSOR: Starting lint review ==="
    let files ← Run.timed (pullContext r.settings.repository pull.number) "fetch_changed_files"
      (fetchChangedFiles r.host r.settings.repository pull.number r.settings.extensions)
    r.restWith pull.number event.headSha files (review pull files)

/-- A review looks up the changed file of each result. -/
theorem run_eq_runWith (r : Reviewer) (event : Event) :
    r.run event = r.runWith event fun pull files results =>
      r.reviewResults pull.number event.headSha files results := rfl

/-- Where a matching tells what the lookup gives, no lookup is needed. -/
theorem reviewResults_matched (r : Reviewer) (pull : Int) (commit : Option String)
    (h : IsLookup r.settings.workspace files m) :
    r.reviewResults pull commit files (m.map Prod.snd) = r.reviewMatched pull commit m := by
  induction m with
  | nil => rfl
  | cons pair rest ih =>
    obtain ⟨file, result⟩ := pair
    obtain ⟨path, hplace, hnamed⟩ := exists_place_of_takenFor? (h file result (by simp))
    obtain ⟨rfl, -⟩ := filename_of_fileNamed? hnamed
    have hrest := ih fun file' result' hmem => h file' result' (by simp [hmem])
    rw [List.map_cons, reviewResults_cons, hplace, Run.ofExcept_ok_bind, reviewUnder, hnamed,
      reviewMatched, hrest]

/-- The results of the linter on changed files. -/
def resultsFor (r : Reviewer) (files : List ChangedFile) (w : World) : List LintResult :=
  r.linter.resultsRead (files.map (·.filename)) w.files w.nextLintRun

/-- The linter does the same after requests for pages. -/
theorem resultsFor_congr {v : World} {qs : List Request} (h : v.traffic = w.traffic.sendAll qs)
    (files : List ChangedFile) : r.resultsFor files v = r.resultsFor files w := by
  have hfiles : v.files = w.files :=
    (congrArg Traffic.files h).trans (w.traffic.files_sendAll qs)
  have hlintRuns : v.lintRuns = w.lintRuns :=
    (congrArg Traffic.lintRuns h).trans (w.traffic.lintRuns_sendAll qs)
  rw [resultsFor, resultsFor, World.nextLintRun, World.nextLintRun, hfiles, hlintRuns]

theorem outcome_rest_matched (pull : Int) (commit : Option String)
    (hlookup : IsLookup r.settings.workspace files m)
    (hresults : m.map Prod.snd = r.resultsFor files w) :
    (r.restWith pull commit files (r.reviewResults pull commit files)).outcome w =
      (r.restWith pull commit files fun _ => r.reviewMatched pull commit m).outcome w := by
  unfold restWith
  by_cases hempty : files.isEmpty = true
  · rw [if_pos hempty, if_pos hempty]
  rw [if_neg hempty, if_neg hempty]
  refine Run.outcome_bind_congr fun _ w₁ hpoll => Run.outcome_bind_congr fun results w₂ hlint => ?_
  obtain rfl : w₁ = w := by
    obtain ⟨ds, hafter, rfl, -⟩ := Run.does_checkCancelled w
    rwa [hpoll] at hafter
  have hlints := Run.obeys_timed (pullContext r.settings.repository pull) "run_style_checker"
    (r.linter.obeys_run (files.map (·.filename))) w₁
  rw [hlint] at hlints
  obtain rfl : results = m.map Prod.snd :=
    (Linter.eq_resultsRead (hlints.2.1 results rfl)).trans hresults.symm
  rw [reviewResults_matched r pull commit hlookup]

/-- If a matching tells what the lookup gives for the results of the linter, a review does the same
as one that goes through the findings of each result in the file beside it, without any lookup. -/
theorem outcome_run_matched (hhost : r.host.remote = .codeHost) (event : Event)
    (hfiles : changedFiles? r.settings.extensions w.hostReplies = some files)
    (hlookup : IsLookup r.settings.workspace files m)
    (hresults : m.map Prod.snd = r.resultsFor files w) :
    (r.run event).outcome w =
      (r.runWith event fun pull _ _ => r.reviewMatched pull.number event.headSha m).outcome w := by
  rw [run_eq_runWith]
  unfold runWith
  cases event.pullRequest with
  | none => rfl
  | some pull =>
    refine Run.outcome_bind_congr fun _ w₁ hnoted => ?_
    refine Run.outcome_bind_congr fun found w₂ hfetched => ?_
    have hquiet := Run.isQuiet_note (pullContext r.settings.repository pull.number) .info
      "=== PROCESSOR: Starting lint review ===" w
    have hfetches := Run.obeys_timed (pullContext r.settings.repository pull.number)
      "fetch_changed_files" (obeys_fetchChangedFiles hhost r.settings.repository pull.number
        r.settings.extensions) w₁
    rw [hnoted] at hquiet
    rw [hfetched, hquiet.2] at hfetches
    obtain ⟨qs, ⟨hsent, -⟩, hagrees⟩ := hfetches
    obtain rfl := Option.some.inj (hfiles.symm.trans (hagrees.told_of_ok found rfl))
    refine outcome_rest_matched pull.number event.headSha hlookup ?_
    rw [hresults, resultsFor_congr hsent]

/-! ## Remarks of matched results -/

/-- The remarks on the findings of results, those of each in the changed file beside it. -/
def remarksMatched (store : FileStore) : Matching → Except Failure (List Remark)
  | [] => .ok []
  | (file, result) :: rest => do
    let here ← remarksIn store file.filename file result.findings
    return here ++ (← remarksMatched store rest)

/-- Where a matching tells what the lookup gives, its remarks are those of the results. -/
theorem remarks_matched {workspace : Path} (h : IsLookup workspace files m) (store : FileStore) :
    remarks workspace files store (m.map Prod.snd) = remarksMatched store m := by
  induction m with
  | nil => rfl
  | cons pair rest ih =>
    obtain ⟨file, result⟩ := pair
    obtain ⟨path, hplace, hnamed⟩ := exists_place_of_takenFor? (h file result (by simp))
    obtain ⟨rfl, -⟩ := filename_of_fileNamed? hnamed
    have hrest := ih fun file' result' hmem => h file' result' (by simp [hmem])
    rw [List.map_cons, remarks, hplace, remarksMatched, ← hrest]
    show (do
      let here ← remarksUnder files store file.filename result.findings
      return here ++ (← remarks workspace files store (rest.map Prod.snd))) = _
    rw [remarksUnder, hnamed]

end Reviewer

end InlineReview
