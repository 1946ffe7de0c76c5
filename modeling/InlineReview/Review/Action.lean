import InlineReview.Review.Reviewer

/-!
# The action

The action reads its settings and the event that started it, and reviews the pull request.  A
failure of the review is published on the commit; a failure before the review ends the action
with status one.
-/

namespace InlineReview

namespace Reviewer

/-- The reviewer that the settings describe. -/
def ofSettings (s : Settings) : Except Failure Reviewer := do
  let host ← CodeHost.client s.hostBase s.hostToken CodeHost.defaultUserAgent
  let model ← Model.create s.modelKey s.modelName s.modelBase (.real s.timeout)
  pure {
    settings := s
    host
    model
    linter := {
      program := s.linter
      config := s.linterConfig
      directory := s.linterPlace
      workspace := s.workspace
      report := s.reportPlace } }

end Reviewer

namespace Action

/-- Publishes that a review has failed. -/
def reportFailure (r : Reviewer) (event : Event) (failure : Failure) : Run Unit := do
  let context := (Reviewer.repositoryContext r.settings).bind [("step", Json.ofText? failure.step?)]
  Run.noteFailure context "Lint review failed" (some failure.message)
  tryCatch
    (Reviewer.postSummary r.host r.settings event.headSha (.failed failure.message))
    fun second =>
      Run.noteFailure (Reviewer.repositoryContext r.settings) "Failed to report the failed run"
        (some second.message)

/-- Reviews the pull request of an event; a review that fails has no outcome. -/
def review (r : Reviewer) (event : Event) : Run (Option Outcome) :=
  tryCatch (some <$> r.run event) fun failure => do
    reportFailure r event failure
    pure none

/-- Reads the event that started the action. -/
def readEvent (s : Settings) : Run Event := do
  Run.ofExcept .event (Event.load (← get).files s.eventPath)

/-- Reads the event and reviews its pull request; no failure is published. -/
def reviewOrFail (s : Settings) : Run Outcome := do
  let event ← readEvent s
  let reviewer ← Run.ofExcept id (Reviewer.ofSettings s)
  reviewer.run event

/-- Reads the event and reviews its pull request, if it has one. -/
def runReview (s : Settings) : Run (Option Outcome) := do
  let event ← readEvent s
  if event.pullRequest.isNone then
    Run.note [] .info "This action only runs on pull requests."
    return none
  let reviewer ← Run.ofExcept id (Reviewer.ofSettings s)
  review reviewer event

/-- Does a failure end the action with a status? -/
def isEventFailure : Failure → Bool
  | .event (.file ..) => true
  | .event (.malformed ..) => true
  | .event (.invalid _) => true
  | _ => false

/-- Runs the action in an environment, up to its exit status. -/
def run (env : Environment) : Run Nat := do
  match Settings.ofEnvironment env with
  | .error fault =>
    Run.noteFailure [] "Configuration missing" (some fault.message)
    pure 1
  | .ok settings =>
    modify fun w => { w with handlesSignals := true }
    tryCatch
      (do
        let _ ← runReview settings
        pure 0)
      fun failure =>
        if isEventFailure failure then do
          Run.noteFailure [] "Unable to load the event payload" (some failure.message)
          pure 1
        else throw failure

/-- Announces the action and runs it. -/
def start (env : Environment) : Run Nat := do
  Run.note [] .info "Starting ESLint Gemini review for this pull request"
  run env

end Action

end InlineReview
