import InlineReview.Text.Passing

/-!
# Commands

A command is passed to the operating system text by text, and the directory in which it is to run
after its arguments.
-/

namespace InlineReview

open Text

/-- A command that is to be started. -/
structure Command where
  arguments : List String
  directory : String
  deriving DecidableEq, Repr

/-- Why a command cannot be passed on, if it cannot. -/
def Command.fault? (c : Command) : Option PassFault :=
  (c.arguments ++ [c.directory]).findSome? passFault?

end InlineReview
