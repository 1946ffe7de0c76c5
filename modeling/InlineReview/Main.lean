import InlineReview.Journal.Sinks
import InlineReview.Json.Writer
import InlineReview.Review.Action

/-!
# The command line

A rehearsal of the action.  The settings come from the environment and the event from standard
input; the services are not asked, and stand in with empty answers.  The journal and the requests
that were put together are printed, and the exit status is that of the action.
-/

namespace InlineReview.Rehearsal

/-- The values of an environment under the given names. -/
def readEnvironment : List String → IO Environment
  | [] => pure []
  | name :: rest => do
    let others ← readEnvironment rest
    match ← IO.getEnv name with
    | some value => pure ((name, value) :: others)
    | none => pure others

/-- All of standard input. -/
partial def readInput (input : IO.FS.Stream) (before : String) : IO String := do
  let line ← input.getLine
  if line.isEmpty then pure before else readInput input (before ++ line)

/-- A world in which the event lies where the settings expect it. -/
def worldFor (env : Environment) (event : String) : World :=
  match Settings.ofEnvironment env with
  | .error _ => {}
  | .ok settings =>
    { files := FileStore.write [] settings.eventPath (Text.Utf8.encode event.toList) }

/-- A line of the journal. -/
def lineOf (e : Entry) : String := s!"{Sinks.levelColumn e.level} | {e.message}"

/-- A line for a request. -/
def requestLine (r : Request) : String :=
  s!"{r.method.name} {r.url} {(r.body.getD .null).compact}"

/-- The lines to print and the exit status. -/
def report (env : Environment) (event : String) : List String × UInt32 :=
  let (fault, sinks) := Sinks.setUp (fun _ => false) (Assoc.erase Sinks.directoryVariable env) {} {}
  match fault with
  | some fault => ([fault.message], 1)
  | none =>
    let (outcome, w) := (Action.start env).outcome (worldFor env event)
    let lines := (sinks.consoleEntries w.journal).map lineOf ++ w.sent.map requestLine
    match outcome with
    | .ok status => (lines, UInt32.ofNat status)
    | .error failure => (lines ++ [failure.message], 1)

end InlineReview.Rehearsal

open InlineReview in
/-- Rehearses the action. -/
def main : IO UInt32 := do
  let names := [Sinks.levelVariable, Sinks.directoryVariable] ++ Settings.variableNames
  let env ← Rehearsal.readEnvironment names
  let event ← Rehearsal.readInput (← IO.getStdin) ""
  let (lines, status) := Rehearsal.report env event
  for line in lines do
    IO.println line
  pure status
