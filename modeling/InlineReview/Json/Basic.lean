import InlineReview.Assoc
import InlineReview.Decimal.Double

/-!
# JSON values

Values as they are read from a document: whole numbers and floating point numbers are told
apart, and an object keeps its members in the order in which their names first came.
-/

namespace InlineReview

/-- A JSON value. -/
inductive Json where
  | null
  | bool (b : Bool)
  | int (n : Int)
  | real (d : Double)
  | str (s : String)
  | arr (elements : List Json)
  | obj (members : List (String × Json))
  deriving Repr, Inhabited

namespace Json

/-- How deep arrays and objects may be nested, where they are read and where they are shown. -/
def nestingLimit : Nat := 1000

/-- The member of an object under a name. -/
def get? (name : String) : Json → Option Json
  | .obj members => Assoc.get? name members
  | _ => none

/-- Does a value count as given?  Null, false, zero and everything empty do not. -/
def isGiven : Json → Bool
  | .null => false
  | .bool b => b
  | .int n => n != 0
  | .real d => ! d.isZero
  | .str s => s != ""
  | .arr elements => ! elements.isEmpty
  | .obj members => ! members.isEmpty

/-- The text of a string value. -/
def str? : Json → Option String
  | .str s => some s
  | _ => none

/-- The elements of an array value. -/
def arr? : Json → Option (List Json)
  | .arr elements => some elements
  | _ => none

/-- The name of a value's kind, as messages give it. -/
def kind : Json → String
  | .null => "NoneType"
  | .bool _ => "bool"
  | .int _ => "int"
  | .real _ => "float"
  | .str _ => "str"
  | .arr _ => "list"
  | .obj _ => "dict"

/-- A text, or null where there is none. -/
def ofText? : Option String → Json
  | none => .null
  | some s => .str s

end Json

end InlineReview
