import InlineReview.Lint.Linter
import InlineReview.Proofs.Run.Outcome

/-!
# Starting the linter

The linter is not started if its command cannot be passed to the system or the system cannot start
it.  A linter that was started leaves its report, whether what it wrote can be read as text or not.

* `Linter.ended`, `LintRun.leaves?` — how the linter ends, and the report that it leaves.
* `Linter.outcome_start`, `Linter.outcome_removeReport` — what is done with the linter, and before.
-/

namespace InlineReview

/-- The report that the linter leaves when a command is given: none if it is not started. -/
def LintRun.leaves? (lintRun : LintRun) (command : Command) : Option (List UInt8) :=
  match command.fault?, lintRun.startFault with
  | none, none => lintRun.report
  | _, _ => none

namespace World

/-- The world when the command of the linter has been given. -/
def launch (l : Linter) (arguments : List String) (w : World) : World :=
  World.interrupt w.nextLintRun.interrupt { w with
    lintRuns := w.lintRuns.tail
    commands := w.commands ++ [{ arguments, directory := l.directory.text }] }

/-- The world after the linter has ended. -/
def lint (l : Linter) (arguments : List String) (w : World) : World :=
  match w.nextLintRun.leaves? { arguments, directory := l.directory.text } with
  | some octets =>
    { w.launch l arguments with files := (w.launch l arguments).files.write l.report octets }
  | none => w.launch l arguments

end World

namespace Linter

/-- How the linter ends when a command is given. -/
def ended (l : Linter) (command : Command) (lintRun : LintRun) : Except Failure Ending :=
  match command.fault?, lintRun.startFault with
  | some fault, _ => .error (.unpassable fault)
  | none, some cause => .error (.lint (.notStarted l.program { cause, path := l.program }))
  | none, none => (endingOf lintRun).mapError .decoding

/-- The command that lints the files that are linted. -/
def commandOn (l : Linter) (files : List String) : Command where
  arguments := l.commandFor (lintable files)
  directory := l.directory.text

/-- The linter ends so, and its command has been given whether it was started or not. -/
theorem outcome_start (l : Linter) (arguments : List String) (w : World) :
    (l.start arguments).outcome w =
      (l.ended { arguments, directory := l.directory.text } w.nextLintRun,
        w.lint l arguments) := by
  rw [start, Run.outcome_bind_ok (Run.outcome_get w), Run.outcome_bind_ok (Run.outcome_set _ _),
    World.lint, LintRun.leaves?, ended]
  cases hpass : Command.fault? { arguments, directory := l.directory.text } with
  | some fault => rfl
  | none =>
    cases hfault : w.nextLintRun.startFault with
    | some cause => rfl
    | none =>
      have hended : ∀ v : World,
          (Run.ofExcept .decoding (endingOf w.nextLintRun)).outcome v =
            ((endingOf w.nextLintRun).mapError .decoding, v) := Run.outcome_ofExcept _ _
      cases hreport : w.nextLintRun.report with
      | none => exact hended _
      | some octets => exact hended _

/-- A report that cannot be removed ends the run, and is left as it is. -/
theorem outcome_removeReport (l : Linter) (w : World) :
    l.removeReport.outcome w = match l.removalFault? w.files with
      | some failure => (.error failure, w)
      | none => (.ok (), { w with files := w.files.remove l.report }) := by
  rw [removeReport, Run.outcome_bind_ok (Run.outcome_get w)]
  cases l.removalFault? w.files <;> rfl

end Linter

end InlineReview
