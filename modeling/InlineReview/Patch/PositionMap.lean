import InlineReview.Assoc
import InlineReview.Journal.Noting
import InlineReview.Patch.PatchLine

/-!
# Where the lines of a file can be commented on

A review comment is placed by the number of a line of the patch, counted from one over every
physical line.  A `PositionMap` gives for a line of the new file the line of the patch that shows
it.  Only context and added lines are shown; a line that is shown twice has the later place.
-/

namespace InlineReview

/-- The place in the patch of each line of the new file that is shown, in the order in which the
lines first come. -/
abbrev PositionMap := List (Nat × Nat)

namespace PositionMap

/-- The place of a line. -/
def position? (map : PositionMap) (line : Int) : Option Nat :=
  if line < 0 then none else Assoc.get? line.toNat map

/-- The pairs of a line and a place that the lines of a patch give, where `position` is the place
of the first of them and `next` the number that the next shown line takes. -/
def assignments : (position next : Nat) → List PatchLine → List (Nat × Nat)
  | _, _, [] => []
  | position, next, l :: ls =>
    match l with
    | .reset newStart => assignments (position + 1) newStart ls
    | .malformed _ => assignments (position + 1) next ls
    | .inert => assignments (position + 1) next ls
    | .keyed => (next, position) :: assignments (position + 1) (next + 1) ls

/-- A malformed header: its place, what is wrong with it and the last number given to a line. -/
structure Warning where
  position : Nat
  why : HunkHeader.Malformed
  cursor : Int
  deriving DecidableEq, Repr

/-- The wording of a warning. -/
def Warning.text (w : Warning) : Except Numeral.Fault String :=
  (Numeral.write w.cursor).map fun cursor =>
    s!"Malformed hunk header at position {w.position} ({w.why.reason}); " ++
      s!"keeping line cursor at {cursor}"

/-- The warnings that the lines of a patch give. -/
def warnings : (position next : Nat) → List PatchLine → List Warning
  | _, _, [] => []
  | position, next, l :: ls =>
    match l with
    | .reset newStart => warnings (position + 1) newStart ls
    | .malformed why =>
      { position, why, cursor := (next : Int) - 1 } :: warnings (position + 1) next ls
    | .inert => warnings (position + 1) next ls
    | .keyed => warnings (position + 1) (next + 1) ls

/-- The map of classified lines; before the first header the lines are counted from one. -/
def ofLines (ls : List PatchLine) : PositionMap := Assoc.ofList (assignments 1 1 ls)

/-- The map of a patch.  Each malformed header is noted as a warning. -/
def ofPatch (patch : String) : Noting Numeral.Fault PositionMap := do
  if patch.isEmpty then return []
  let (ls, fault?) := PatchLine.ofLines (PatchLine.splitL patch.toList)
  for w in warnings 1 1 ls do
    Noting.note .warning (← Noting.ofExcept id w.text)
  match fault? with
  | some fault => throw fault
  | none => return ofLines ls

end PositionMap

end InlineReview
