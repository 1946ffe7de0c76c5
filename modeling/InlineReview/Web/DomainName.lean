import InlineReview.Text.Punycode
import InlineReview.Text.Search
import InlineReview.Unicode.Composed
import InlineReview.Unicode.Marks
import InlineReview.Web.Joiners
import InlineReview.Web.NameMapping
import InlineReview.Web.WritingDirection

/-!
# Domain names

A name is brought into ASCII as browsers do it: what is meant by its characters, composed, label
by label, each label that is not ASCII in Punycode behind `xn--`.  A label that comes in Punycode
must stand for one that would have been written so.
-/

namespace InlineReview.Web

open Text Unicode

/-- What a label in Punycode starts with. -/
def punycodeLead : List Char := "xn--".toList

/-- Is this text ASCII? -/
def isAscii (s : List Char) : Bool := s.all fun c => c.toNat < 128

/-- What is meant by a name, none if one of its characters may not occur. -/
def meantName? (name : List Char) : Option (List Char) :=
  (name.mapM meant?).map fun parts => composed parts.flatten

/-- A label as it is shown and as it is written. -/
structure Label where
  shown : List Char
  written : List Char
  deriving DecidableEq, Repr

namespace Label

/-- May this be a label, apart from directions? -/
def isSound (label : List Char) : Bool :=
  match label with
  | [] => true
  | c :: _ => ! isMark c && joinersFit [] label

/-- The label that stands in Punycode for these code points, none if it would have been written
otherwise. -/
def ofCodePoints? (ns : List Nat) : Option (List Char) :=
  let label := ns.map Char.ofNat
  if ns.all (·.isValidChar) && ! isAscii label && label.all standsForItself &&
      composed label = label then
    some label
  else none

/-- Reads a label in small letters. -/
def ofText? (s : List Char) : Option Label :=
  match dropLead? punycodeLead s with
  | some code =>
    if ! isAscii s || code.head? = some '-' then none
    else
      ((Punycode.decode? code).bind ofCodePoints?).bind fun shown =>
        if isSound shown then some { shown, written := s } else none
  | none =>
    if ! isSound s then none
    else some { shown := s, written := Punycode.asciiLabel s }

end Label

/-- A name in ASCII, none if it is no domain name. -/
def asciiName? (name : List Char) : Option (List Char) := do
  let name ← meantName? name
  let labels ← (pieces '.' name).mapM Label.ofText?
  let shown := labels.map (·.shown)
  if shown.any hasLeftward && shown.any fun label => (directionFault? label).isSome then none
  else some (joinWith '.' (labels.map (·.written)))

end InlineReview.Web
