import InlineReview.Text.Unwritable

/-!
# Texts for the operating system

A name or an argument is passed on as octets with a null octet behind them.  It is written in
UTF-8, where the half of a pair that was read for an octet beyond ASCII becomes that octet again.
So a text with any other half cannot be passed, nor one with a null character.
-/

namespace InlineReview.Text

/-- Is this the half of a pair that is read for an octet beyond ASCII? -/
def isOctetHalf (n : Nat) : Bool := 0xDC80 ≤ n && n < 0xDD00

/-- Can a character be written in a name? -/
def isNameable (c : Char) : Bool := ! isStandIn c || isOctetHalf (codePoint c)

/-- The halves of pairs from the first character on that cannot be written in a name. -/
def unnameable? (s : List Char) : Option EncodeFault :=
  let front := s.takeWhile isNameable
  match s.drop front.length with
  | [] => none
  | c :: r =>
    let run := (c :: r).takeWhile isStandIn
    some { encoding := .utf8, first := c, start := front.length, count := run.length }

/-- Why a text cannot be passed on. -/
inductive PassFault where
  | unwritable (fault : EncodeFault)
  | nullByte
  deriving DecidableEq, Repr

/-- The wording of a fault. -/
def PassFault.message : PassFault → String
  | .unwritable fault => fault.message
  | .nullByte => "embedded null byte"

/-- The fault of a text that is passed on, if it has one. -/
def passFault? (text : String) : Option PassFault :=
  match unnameable? text.toList with
  | some fault => some (.unwritable fault)
  | none => if text.toList.contains '\x00' then some .nullByte else none

end InlineReview.Text
