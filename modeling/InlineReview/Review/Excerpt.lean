import InlineReview.FileStore
import InlineReview.Json.Shape

/-!
# Code around a finding

`excerpt` is the line of a finding with its neighbours, and `placeOf` the path of a linted file
as it is seen from the workspace.
-/

namespace InlineReview

open Text

/-- The elements from index `start` on and before index `stop`; a negative `stop` counts from the
end. -/
def window {α : Type} (xs : List α) (start : Nat) (stop : Int) : List α :=
  let stop := if stop < 0 then (xs.length + stop).toNat else stop.toNat
  (xs.take stop).drop start

/-- The lines from the one before `line` to the one after it, as far as there are such. -/
def excerptLines (ls : List (List Char)) (line : Int) : List (List Char) :=
  window ls (line - 2).toNat (line + 1)

/-- The lines around a line of a file, joined by newlines. -/
def excerpt (store : FileStore) (path : Path) (line : Int) : Except FileFault String :=
  (store.textReplacing path).map fun s =>
    String.ofList (unlinesL (excerptLines (linesL s) line))

/-- Why the place of a file is unknown. -/
inductive PlaceFault where
  | noPath
  | shape (fault : ShapeFault)
  deriving DecidableEq, Repr

/-- The wording of a fault. -/
def PlaceFault.message : PlaceFault → String
  | .noPath => "no path specified"
  | .shape fault => fault.message

/-- The path of a file as it is seen from a directory. -/
def placeOf (file : String) (root : Path) : Except PlaceFault String :=
  if file = "" then .error .noPath
  else .ok (Path.relative root (Path.ofText file)).text

/-- The path of a reported file as it is seen from a directory. -/
def placeOfReported (file : Json) (root : Path) : Except PlaceFault String :=
  match file with
  | .str s => placeOf s root
  | v => .error (.shape (.notPathLike v.kind))

end InlineReview
