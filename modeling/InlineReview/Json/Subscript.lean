import InlineReview.Json.Basic

/-!
# Subscripts

A value is asked for what it has under a name or at a place.  An object has members under names, an
array has elements at places, and so has a string its characters, each of them a string again.
`Json.follow` goes from value to value along several subscripts; it ends at the first value that has
nothing under its subscript, and tells why.
-/

namespace InlineReview.Json

/-- What a value is asked for. -/
inductive Subscript where
  | name (name : String)
  | place (index : Nat)
  deriving DecidableEq, Repr

/-- Why a value has nothing under a subscript: an object has no member there, an array or a string
is too short, or the value has nothing under any such subscript. -/
inductive SubscriptFault where
  | missing
  | beyond
  | unsuited
  deriving DecidableEq, Repr

/-- What a value has under a subscript.  The members of an object are under names, so that it misses
one at any place. -/
def item : Json → Subscript → Except SubscriptFault Json
  | .obj members, .name name =>
    match Assoc.get? name members with
    | some v => .ok v
    | none => .error .missing
  | .obj _, .place _ => .error .missing
  | .arr elements, .place i =>
    match elements[i]? with
    | some v => .ok v
    | none => .error .beyond
  | .str s, .place i =>
    match s.toList[i]? with
    | some c => .ok (.str (String.singleton c))
    | none => .error .beyond
  | _, _ => .error .unsuited

/-- Where subscripts lead from a value, one after the other. -/
def follow (v : Json) (path : List Subscript) : Except SubscriptFault Json := path.foldlM item v

end InlineReview.Json
