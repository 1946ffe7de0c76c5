import InlineReview.Journal.Entry
import InlineReview.Path

/-!
# Where entries are written

Entries go to sinks, to each of them from its level on.  Setting up removes the sinks that there are
and adds one for the console and, if a directory is set, one for a file in it from the level of
debugging on.  The first setup that succeeds stays; one that fails leaves what it has already done,
and the next one starts afresh.
-/

namespace InlineReview

/-- What a sink writes to.  Before any setup entries go to the stream of errors. -/
inductive SinkTarget where
  | errors
  | console
  | file (directory : Path)
  deriving DecidableEq, Repr

/-- A sink, with the level of the least entries that it writes. -/
structure Sink where
  target : SinkTarget
  level : Level
  deriving DecidableEq, Repr

/-- Where entries go: the sinks in the order in which they were added, and whether a setup has
succeeded. -/
structure Sinks where
  installed : List Sink := [{ target := .errors, level := .debug }]
  isReady : Bool := false
  deriving DecidableEq, Repr

/-- What is wished for: a level and a directory, each given or left to the environment. -/
structure SinkWish where
  level : Option String := none
  directory : Option String := none
  deriving DecidableEq, Repr

/-- Why a setup fails. -/
inductive SinkFault where
  | unknownLevel (name : String)
  | noDirectory (path : String)
  deriving DecidableEq, Repr

/-- The wording of a fault. -/
def SinkFault.message : SinkFault → String
  | .unknownLevel name => s!"Level '{name}' does not exist"
  | .noDirectory path => path

namespace Sinks

/-- The name of the value that sets the level of the console. -/
def levelVariable : String := "LINT_REVIEW_LOG_LEVEL"

/-- The name of the value that sets the directory of the file. -/
def directoryVariable : String := "LINT_REVIEW_LOG_DIR"

/-- The level of the file. -/
def fileLevel : Level := .debug

/-- The name of the level of the console: the one wished for unless it is empty, else that of the
environment. -/
def levelName (env : List (String × String)) (wish : SinkWish) : String :=
  match wish.level with
  | none | some "" => (Assoc.get? levelVariable env).getD Level.info.name
  | some name => name

/-- The directory of the file: the one wished for, else that of the environment; none if it is
empty. -/
def directoryOf (env : List (String × String)) (wish : SinkWish) : Option Path :=
  match wish.directory.or (Assoc.get? directoryVariable env) with
  | none | some "" => none
  | some text => some (Path.ofText text)

/-- A setup changes the sinks and may fail; what it changed before it failed remains. -/
abbrev Setup : Type → Type := ExceptT SinkFault (StateM Sinks)

/-- Removes every sink. -/
def removeAll : Setup Unit := modify fun s => { s with installed := [] }

/-- Adds a sink. -/
def add (sink : Sink) : Setup Unit := modify fun s => { s with installed := s.installed ++ [sink] }

/-- Adds a sink for the console, if there is a level of this name. -/
def addConsole (levelName : String) : Setup Unit :=
  match Level.named? levelName with
  | none => throw (.unknownLevel levelName)
  | some level => add { target := .console, level }

/-- Adds a sink for a file, if its directory can be used. -/
def addFile (usable : Path → Bool) (directory : Path) : Setup Unit :=
  if usable directory then add { target := .file directory, level := fileLevel }
  else throw (.noDirectory directory.text)

/-- Sets the sinks up. -/
def install (usable : Path → Bool) (env : List (String × String)) (wish : SinkWish) :
    Setup Unit := do
  removeAll
  addConsole (levelName env wish)
  match directoryOf env wish with
  | none => pure ()
  | some directory => addFile usable directory
  modify fun s => { s with isReady := true }

/-- Sets the sinks up unless they are.  `usable` tells whether a directory is there or can be
made. -/
def setUp (usable : Path → Bool) (env : List (String × String)) (wish : SinkWish) (s : Sinks) :
    Option SinkFault × Sinks :=
  if s.isReady then (none, s)
  else
    match (install usable env wish).run.run s with
    | (.ok (), s) => (none, s)
    | (.error fault, s) => (some fault, s)

/-- The entries of messages under the names of their levels, up to the first name that there is
not. -/
def entriesOf : List (String × String) → Option SinkFault × List Entry
  | [] => (none, [])
  | (name, message) :: rest =>
    match Level.named? name with
    | none => (some (.unknownLevel name), [])
    | some level =>
      let (fault, entries) := entriesOf rest
      (fault, { level, message, context := [] } :: entries)

/-- The entries that are written to a target: each of them by every sink for it that takes entries
of that level. -/
def entriesAt (target : SinkTarget) (s : Sinks) (entries : List Entry) : List Entry :=
  entries.flatMap fun e =>
    (s.installed.filter fun k => k.target = target && k.level.reaches e.level).map fun _ => e

/-- The entries that the console shows. -/
def consoleEntries (s : Sinks) (entries : List Entry) : List Entry := s.entriesAt .console entries

/-- The directory of a file. -/
def directoryAt? : SinkTarget → Option Path
  | .file directory => some directory
  | _ => none

/-- The entries that the file holds, with its directory, if there is one. -/
def fileEntries? (s : Sinks) (entries : List Entry) : Option (Path × List Entry) :=
  (s.installed.findSome? fun k => directoryAt? k.target).map fun directory =>
    (directory, s.entriesAt (.file directory) entries)

/-- The name of a level in a column of eight characters. -/
def levelColumn (level : Level) : String :=
  level.name ++ String.ofList (List.replicate (8 - level.name.length) ' ')

end Sinks

end InlineReview
