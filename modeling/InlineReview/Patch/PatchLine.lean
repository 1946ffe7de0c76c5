import InlineReview.Patch.HunkHeader

/-!
# The lines of a patch

The physical lines of a patch, each classified by what it does to the count of lines of the new
file: a hunk header sets it, a context or added line takes the next number, and removed lines,
markers and malformed headers leave it alone.
-/

namespace InlineReview

open Text

/-- What a line of a patch does to the count of lines of the new file. -/
inductive PatchLine where
  | reset (newStart : Nat)
  | malformed (why : HunkHeader.Malformed)
  | inert
  | keyed
  deriving DecidableEq, Repr

namespace PatchLine

/-- The physical lines of a patch: a newline at the end closes the last line and opens no
other. -/
def splitL (patch : List Char) : List (List Char) :=
  let ls := pieces '\n' patch
  if patch.getLast? = some '\n' then ls.dropLast else ls

/-- The physical lines of a patch. -/
def split (patch : String) : List String := (splitL patch.toList).map String.ofList

/-- Classifies a physical line. -/
def ofLine (line : List Char) : Except Numeral.Fault PatchLine :=
  if startsWith HunkHeader.marker line then
    (HunkHeader.readL line).map fun
      | .ok header => .reset header.newStart
      | .error why => .malformed why
  else
    match line with
    | '-' :: _ => .ok .inert
    | '\x5c' :: _ => .ok .inert
    | _ => .ok .keyed

/-- Classifies lines up to the first one that cannot be read, and tells why it cannot. -/
def ofLines : List (List Char) → List PatchLine × Option Numeral.Fault
  | [] => ([], none)
  | line :: rest =>
    match ofLine line with
    | .ok l =>
      let (ls, fault) := ofLines rest
      (l :: ls, fault)
    | .error fault => ([], some fault)

end PatchLine

end InlineReview
