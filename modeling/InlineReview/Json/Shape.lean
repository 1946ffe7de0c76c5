import InlineReview.Json.Basic

/-!
# Values of an unexpected shape

A value from outside may lack the operation that its use calls for.  A `ShapeFault` names the
kind of the value and what it was used for.
-/

namespace InlineReview

/-- How a value lacks the shape that its use calls for. -/
inductive ShapeFault where
  | notIterable (kind : String)
  | noOperation (kind operation : String)
  | notPathLike (kind : String)
  deriving DecidableEq, Repr

/-- The wording of a fault of shape. -/
def ShapeFault.message : ShapeFault → String
  | .notIterable kind => s!"'{kind}' object is not iterable"
  | .noOperation kind operation => s!"'{kind}' object has no attribute '{operation}'"
  | .notPathLike kind => s!"expected str, bytes or os.PathLike object, not {kind}"

namespace Json

/-- The items of a value that can be walked through: the elements of an array, the names of an
object's members, the characters of a string. -/
def items : Json → Except ShapeFault (List Json)
  | .arr elements => .ok elements
  | .obj members => .ok (members.map fun (name, _) => .str name)
  | .str s => .ok (s.toList.map fun c => .str (String.singleton c))
  | v => .error (.notIterable v.kind)

/-- A member of an object, null if there is none. -/
def field (name : String) : Json → Except ShapeFault Json
  | .obj members => .ok ((Assoc.get? name members).getD .null)
  | v => .error (.noOperation v.kind "get")

end Json

end InlineReview
