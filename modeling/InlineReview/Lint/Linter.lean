import InlineReview.Run
import InlineReview.Text.Lines
import InlineReview.Text.Search

/-!
# Running the linter

The linter is started on the changed files as they lie in the workspace and leaves a report in a
file.  Files of the action itself and of installed packages are not linted.  A report that was
left before is removed, so that it is not taken for the report of this run.
-/

namespace InlineReview

open Text

/-- How the linter is started. -/
structure Linter where
  program : String
  config : String
  directory : Path
  workspace : Path
  report : Path
  deriving DecidableEq, Repr

namespace Linter

/-- The directories whose files are not linted. -/
def excluded : List String := ["action/", "node_modules/"]

/-- Is a changed file linted? -/
def isLintable (file : String) : Bool :=
  ! excluded.any fun lead => startsWith lead.toList file.toList

/-- The changed files that are linted. -/
def lintable (files : List String) : List String := files.filter isLintable

/-- The path of a changed file in the workspace. -/
def pathOf (l : Linter) (file : String) : Path := l.workspace.join (Path.ofText file)

/-- The command that lints files. -/
def commandFor (l : Linter) (files : List String) : List String :=
  [l.program] ++ files.map (fun f => (l.pathOf f).text) ++
    ["--format", "json", "-c", l.config, "-o", l.report.text]

/-- Why the report of an earlier run cannot be removed. -/
def removalFault? (l : Linter) (store : FileStore) : Option Failure :=
  match passFault? l.report.text with
  | some fault => some (.unpassable fault)
  | none => (store.removalFault? l.report).map .file

/-- Removes the report of an earlier run. -/
def removeReport (l : Linter) : Run Unit := do
  match l.removalFault? (← get).files with
  | some failure => throw failure
  | none => modify fun w => { w with files := w.files.remove l.report }

/-- How the linter has ended. -/
structure Ending where
  status : Int
  complaints : String
  deriving DecidableEq, Repr

/-- How a linter that was started ends.  What it writes is read as text, the output first although
nothing is done with it. -/
def endingOf (lintRun : LintRun) : Except DecodeFault Ending := do
  let _ ← Utf8.decode lintRun.output
  let complaints ← Utf8.decode lintRun.complaints
  return { status := lintRun.status, complaints := String.ofList (unifyNewlines complaints) }

/-- Starts the linter and waits for its end. -/
def start (l : Linter) (arguments : List String) : Run Ending := do
  let w ← get
  let lintRun := w.nextLintRun
  let command : Command := { arguments, directory := l.directory.text }
  set ({ w with lintRuns := w.lintRuns.tail, commands := w.commands ++ [command] }.interrupt
    lintRun.interrupt)
  match command.fault?, lintRun.startFault with
  | some fault, _ => throw (.unpassable fault)
  | none, some cause => throw (.lint (.notStarted l.program { cause, path := l.program }))
  | none, none =>
    match lintRun.report with
    | some octets => modify fun w => { w with files := w.files.write l.report octets }
    | none => pure ()
    Run.ofExcept .decoding (endingOf lintRun)

/-- The value that the report holds. -/
def reportValue (l : Linter) (store : FileStore) : Except Failure Json :=
  match store.text l.report with
  | .error (.file fault) => .error (.lint (.noReport l.report.text fault))
  | .error (.decoding fault) => .error (.decoding fault)
  | .ok s =>
    match Json.readL s with
    | .error (.malformed m) => .error (.lint (.malformed l.report.text m))
    | .error (.limit passed) => .error (.document (.limit passed))
    | .ok v => .ok v

/-- Reads the report. -/
def readReport (l : Linter) : Run (List LintResult) := do
  let report ← Run.ofExcept id (l.reportValue (← get).files)
  let results ← Run.ofNoting Failure.ofReportFault (LintResult.ofReport report)
  let findings := (results.flatMap fun r => r.findings).length
  Run.note [] .info s!"Done ESLint: {findings} finding(s) in {results.length} file(s)"
  pure results

/-- Writes what the linter said if it did not end well.  It does not end well when it finds
something, and its report is there all the same. -/
def noteStatus (ending : Ending) : Run Unit := do
  if ending.status ≠ 0 then
    Run.note [] .warning s!"ESLint exited with status {ending.status}"
    if ending.complaints ≠ "" then
      Run.note [] .debug s!"ESLint stderr: {trim ending.complaints}"

/-- Lints files and reads the report. -/
def run (l : Linter) (files : List String) : Run (List LintResult) := do
  let files := lintable files
  if files.isEmpty then
    Run.note [] .info "No lintable files after filtering, skipping ESLint"
    return []
  l.removeReport
  Run.note [] .info s!"Running ESLint on {files.length} file(s)..."
  let ending ← Run.timed [] "eslint" (l.start (l.commandFor files))
  noteStatus ending
  l.readReport

end Linter

end InlineReview
