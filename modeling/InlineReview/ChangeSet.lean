import InlineReview.Json.Display
import InlineReview.Json.Shape
import InlineReview.Patch.PositionMap

/-!
# The changed files of a pull request

A code host lists the changed files as objects with a name and a patch.  The source files among
them, told by the ends of their names, are kept in order, each with the map of its own patch.
-/

namespace InlineReview

open Text

/-- A changed file that is reviewed. -/
structure ChangedFile where
  filename : String
  patch : Json
  positions : PositionMap
  deriving Repr

/-- Why a list of changed files cannot be read. -/
inductive ChangeFault where
  | shape (fault : ShapeFault)
  | numeral (fault : Numeral.Fault)
  deriving DecidableEq, Repr

/-- The wording of a fault. -/
def ChangeFault.message : ChangeFault → String
  | .shape fault => fault.message
  | .numeral fault => fault.message

namespace ChangedFile

/-- Does a name end in one of the extensions? -/
def isSource (filename : String) (extensions : List String) : Bool :=
  extensions.any fun e => endsWith e.toList filename.toList

/-- The place of a line in the patch. -/
def position? (file : ChangedFile) (line : Int) : Option Nat := file.positions.position? line

/-- The map of a patch as the host gave it; nothing is shown without a patch. -/
def positionsOf (patch : Json) : Noting ChangeFault PositionMap :=
  if ! patch.isGiven then pure []
  else
    match patch with
    | .str s => ExceptT.adapt .numeral (PositionMap.ofPatch s)
    | v => throw (.shape (.noOperation v.kind "split"))

/-- What becomes of a listed file. -/
inductive Listed where
  | unnamed
  | other
  | source (file : ChangedFile)
  deriving Repr

/-- Reads one listed file. -/
def ofEntry (extensions : List String) (entry : Json) : Noting ChangeFault Listed := do
  let filename ← Noting.ofExcept .shape (entry.field "filename")
  if ! filename.isGiven then
    Noting.note .warning s!"Skipping file entry missing filename: {entry.text}"
    return .unnamed
  match filename with
  | .str name =>
    if ! isSource name extensions then return .other
    let patch ← Noting.ofExcept .shape (entry.field "patch")
    let positions ← positionsOf patch
    return .source { filename := name, patch, positions }
  | v => throw (.shape (.noOperation v.kind "endswith"))

/-- The source files of a list and the number of files without a name. -/
def ofEntries (extensions : List String) :
    List Json → Noting ChangeFault (List ChangedFile × Nat)
  | [] => pure ([], 0)
  | entry :: rest => do
    match ← ofEntry extensions entry with
    | .unnamed =>
      let (files, unnamed) ← ofEntries extensions rest
      return (files, unnamed + 1)
    | .other => ofEntries extensions rest
    | .source file =>
      let (files, unnamed) ← ofEntries extensions rest
      return (file :: files, unnamed)

/-- The source files of the host's list of changed files. -/
def ofListing (listing : Json) (extensions : List String) :
    Noting ChangeFault (List ChangedFile) := do
  let entries ← Noting.ofExcept .shape listing.items
  let (files, unnamed) ← ofEntries extensions entries
  if 0 < unnamed then
    Noting.note .warning s!"Skipped {unnamed} file(s) due to missing filename"
  Noting.note .debug
    s!"Kept {files.length} source file(s) from {entries.length} changed file entries"
  return files

end ChangedFile

end InlineReview
