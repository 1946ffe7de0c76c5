import InlineReview.Journal.Entry

/-!
# Computations that write entries

A computation of type `Noting ε α` gives a value or fails with an `ε`; either way the entries
that it wrote remain.
-/

namespace InlineReview

/-- Computations that write entries and may fail. -/
abbrev Noting (ε : Type) : Type → Type := ExceptT ε (StateM (List Entry))

namespace Noting

variable {ε α : Type}

/-- Writes an entry without context. -/
def note (level : Level) (message : String) : Noting ε Unit :=
  modify (· ++ [{ level, message, context := [] }])

/-- The outcome of a computation and the entries that it wrote. -/
def outcome (x : Noting ε α) : Except ε α × List Entry := x.run.run []

/-- A computation that fails as a given result does. -/
def ofExcept {δ : Type} (wrap : δ → ε) (x : Except δ α) : Noting ε α :=
  match x with
  | .ok a => pure a
  | .error e => throw (wrap e)

end Noting

end InlineReview
