import InlineReview.CodeHost
import InlineReview.Lint.Linter
import InlineReview.Model
import InlineReview.Review.Outcome

/-!
# Reviewing a pull request

A reviewer fetches the changed files, lints them, and goes through the findings in order.  A
finding on a line that the patch shows is put to the model, and the answer becomes a comment at
the place of the line.  A comment that cannot be placed does not stop the review; every other
failure does, and so does a cancellation.
-/

namespace InlineReview

/-- A reviewer with its collaborators. -/
structure Reviewer where
  settings : Settings
  host : Client
  model : Model
  linter : Linter

namespace Reviewer

/-! ## Changed files -/

/-- What is written when the code host refuses to list the changed files. -/
def refusalText (fault : HostFault) : String :=
  if fault.status = 404 then s!"PR or repository not found (404): {fault.message}"
  else if fault.status = 403 then s!"Permission denied (403): {fault.message}"
  else s!"GitHub API error ({fault.status}): {fault.message}"

/-- The context of entries about a repository. -/
def repositoryContext (s : Settings) : Context :=
  Context.bind [] [("repository", .str s.repository)]

/-- The context of entries about a pull request. -/
def pullContext (fullName : String) (pull : Int) : Context :=
  Context.bind [] [("repository", .str fullName), ("pull_number", .int pull)]

/-- The changed source files of a pull request. -/
def fetchChangedFiles (host : Client) (fullName : String) (pull : Int)
    (extensions : List String) : Run (List ChangedFile) := do
  let context := pullContext fullName pull
  Run.note context .info s!"Fetching changed files for PR #{pull}"
  let entries ← tryCatch
    (Run.timed context "fetch_pr_files" (CodeHost.listFiles host fullName pull))
    fun failure => do
      match failure with
      | .host fault => Run.note context .error (refusalText fault)
      | _ => pure ()
      throw failure
  let files ← Run.ofNoting Failure.ofChangeFault (ChangedFile.ofListing (.arr entries) extensions)
  Run.note context .info
    s!"PR #{pull} changed {entries.length} file(s), {files.length} to lint"
  pure files

/-! ## Comments and summaries -/

/-- Publishes a summary on a commit; without a commit there is nowhere to publish it. -/
def postSummary (host : Client) (settings : Settings) (commit : Option String)
    (summary : Summary) : Run Unit := do
  match commit with
  | none | some "" =>
    Run.note [] .warning s!"No head SHA available; cannot post summary '{summary.summary}'"
  | some sha =>
    let _ ← (CodeHost.createCheckRun host settings.repository {
      name := settings.checkName
      commit := some sha
      title := summary.title
      summary := summary.summary
      text := some summary.text }).perform

/-- The call that places a comment. -/
def commentCall (r : Reviewer) (pull : Int) (commit : Option String) (c : InlineComment) :
    Call Json :=
  CodeHost.createComment r.host r.settings.repository pull commit c.path c.position c.body

/-- Writes why a comment could not be placed; a cancellation goes on. -/
def excuseComment (r : Reviewer) (c : InlineComment) (failure : Failure) : Run Unit :=
  let context := Context.bind [] [("path", .str c.path)]
  match failure with
  | .cancelled _ => throw failure
  | .host fault =>
    Run.noteFailure context s!"Failed to create inline comment (status={fault.status})"
      (some fault.message)
  | .deadline _ =>
    Run.noteFailure context
      s!"Creating inline comment timed out after {r.settings.timeout.text}s" none
  | failure => Run.noteFailure context "Failed to create inline comment" (some failure.message)

/-- Places a comment. -/
def postComment (r : Reviewer) (pull : Int) (commit : Option String) (c : InlineComment) :
    Run Unit := do
  let context := Context.bind [] [("path", .str c.path), ("position", .int c.position)]
  tryCatch
    (do
      let timeout := some (.real r.settings.timeout)
      let _ ← Run.within true timeout (r.commentCall pull commit c).start
      Run.note context .info s!"Posted inline comment on {c.path} at position {c.position}")
    (r.excuseComment c)

/-! ## Findings -/

/-- The body of the comment on a finding, if it gets one: with the first suggestion, or without
one if comments without suggestions are wanted. -/
def bodyFor (postLintOnly : Bool) (finding : Finding) (suggestions : List Suggestion) :
    Option String :=
  match suggestions with
  | s :: _ => some (InlineComment.bodyOf finding.message finding.rule (some s))
  | [] =>
    if postLintOnly then some (InlineComment.bodyOf finding.message finding.rule none) else none

/-- Reviews a finding in a changed file: the comment that was tried to be placed, if any. -/
def reviewFinding (r : Reviewer) (pull : Int) (commit : Option String) (path : String)
    (file : ChangedFile) (finding : Finding) : Run (Option InlineComment) := do
  let context := Context.bind []
    [("path", .str path), ("line", finding.line.toJson), ("rule", finding.rule)]
  match file.position? finding.line.toNat with
  | none =>
    Run.note context .debug "Finding is outside the diff; skipping"
    pure none
  | some position =>
    let code ← Run.ofExcept .file
      (excerpt (← get).files (Path.ofText finding.file.text) finding.line.toNat)
    let suggestions ← r.model.suggestFix true finding.message.text code
    match bodyFor r.settings.postLintOnly finding suggestions with
    | none =>
      Run.note context .info "No AI suggestion returned; not commenting"
      pure none
    | some body =>
      let comment : InlineComment := { path, position, body }
      r.postComment pull commit comment
      pure (some comment)

/-- Reviews the findings in a changed file. -/
def reviewFindings (r : Reviewer) (pull : Int) (commit : Option String) (path : String)
    (file : ChangedFile) : List Finding → Run (List InlineComment)
  | [] => pure []
  | finding :: rest => do
    Run.checkCancelled
    let comment ← r.reviewFinding pull commit path file finding
    let comments ← r.reviewFindings pull commit path file rest
    pure (comment.toList ++ comments)

/-- The changed file of a name, the last one if there are several. -/
def fileNamed? (files : List ChangedFile) (name : String) : Option ChangedFile :=
  files.reverse.find? fun f => f.filename = name

/-- Reviews the results of the linter. -/
def reviewResults (r : Reviewer) (pull : Int) (commit : Option String) (files : List ChangedFile) :
    List LintResult → Run (List InlineComment)
  | [] => pure []
  | result :: rest => do
    let path ← Run.ofExcept .place (placeOfReported result.file r.settings.workspace)
    let comments ← match fileNamed? files path with
      | none => do
        Run.note (pullContext r.settings.repository pull) .debug
          s!"Lint result for {path} is outside the change set; skipping"
        pure []
      | some file => r.reviewFindings pull commit path file result.findings
    return comments ++ (← r.reviewResults pull commit files rest)

/-! ## Whole reviews -/

/-- Reviews changed files of which there is at least one. -/
def reviewFiles (r : Reviewer) (pull : Int) (commit : Option String) (files : List ChangedFile) :
    Run Outcome := do
  Run.checkCancelled
  let results ← Run.timed (pullContext r.settings.repository pull) "run_style_checker"
    (r.linter.run (files.map (·.filename)))
  let comments ← r.reviewResults pull commit files results
  if comments.isEmpty then
    postSummary r.host r.settings commit .noIssues
    pure .noIssuesFound
  else
    Run.noteSuccess (repositoryContext r.settings)
      s!"Posted {comments.length} inline comment(s)"
    pure (.issuesFound comments)

/-- Reviews the pull request of an event. -/
def run (r : Reviewer) (event : Event) : Run Outcome := do
  match event.pullRequest with
  | none => throw .notPullRequest
  | some pullRequest =>
    let pull := pullRequest.number
    let commit := event.headSha
    let context := pullContext r.settings.repository pull
    Run.note context .info "=== PROCESSOR: Starting lint review ==="
    let files ← Run.timed context "fetch_changed_files"
      (fetchChangedFiles r.host r.settings.repository pull r.settings.extensions)
    if files.isEmpty then
      Run.note context .info "No JS/TS files changed, skipping linting."
      postSummary r.host r.settings commit .noFiles
      pure .noFilesChanged
    else r.reviewFiles pull commit files

end Reviewer

end InlineReview
