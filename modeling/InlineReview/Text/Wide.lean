import InlineReview.Text.Decoding
import InlineReview.Text.Surrogate

/-!
# UTF-16 and UTF-32

Reading octets in units of two or four, in either order.  A half of a pair that stands alone is
read as it is by a tolerant reader and is a flaw for any other.
-/

namespace InlineReview.Text.Wide

/-- Which octet of a unit comes first. -/
inductive Order where
  | littleFirst
  | bigFirst
  deriving DecidableEq, Repr

/-- The value of the octets of a unit. -/
def Order.value (o : Order) (unit : List UInt8) : Nat :=
  let bigFirst := match o with
    | .bigFirst => unit
    | .littleFirst => unit.reverse
  bigFirst.foldl (fun n b => n * 256 + b.toNat) 0

/-- The name of an order at the end of an encoding's name. -/
def Order.suffixText : Order → String
  | .littleFirst => "le"
  | .bigFirst => "be"

/-- The piece of a code point in some octets. -/
def pieceOf (tolerant : Bool) (n size : Nat) : Piece :=
  if isHalf n && ! tolerant then .flawed .loneHalf size else .char (ofCodePoint n) size

/-- The first piece in units of two.  The first half of a pair takes with it a rest that is too
short for the second half. -/
def firstPiece16 (tolerant : Bool) (o : Order) (b : UInt8) : List UInt8 → Piece
  | [] => .flawed .truncated 1
  | b₂ :: b₃ :: b₄ :: _ =>
    let n := o.value [b, b₂]
    let m := o.value [b₃, b₄]
    if isHigh n && isLow m then .char (Char.ofNat (joinPair n m)) 4 else pieceOf tolerant n 2
  | b₂ :: rest =>
    let n := o.value [b, b₂]
    if isHigh n && ! tolerant then .flawed .unexpectedEnd (rest.length + 2)
    else pieceOf tolerant n 2

/-- The first piece in units of four. -/
def firstPiece32 (tolerant : Bool) (o : Order) (b : UInt8) : List UInt8 → Piece
  | b₂ :: b₃ :: b₄ :: _ =>
    let n := o.value [b, b₂, b₃, b₄]
    if n < 0x110000 then pieceOf tolerant n 4 else .flawed .outOfRange 4
  | rest => .flawed .truncated (rest.length + 1)

/-- The pieces of octets, of which the first `owed` belong to a piece already read. -/
def piecesFrom (first : UInt8 → List UInt8 → Piece) : (owed : Nat) → List UInt8 → List Piece
  | _, [] => []
  | k + 1, _ :: rest => piecesFrom first k rest
  | 0, b :: rest =>
    let piece := first b rest
    piece :: piecesFrom first (piece.size - 1) rest

/-- Reads octets in units of two and lets halves of pairs pass; the octets follow `start` octets
of a mark. -/
def decode16 (o : Order) (start : Nat) (octets : List UInt8) : Except DecodeFault (List Char) :=
  strictly s!"utf-16-{o.suffixText}" start octets (piecesFrom (firstPiece16 true o) 0 octets)

/-- Reads octets in units of four and lets halves of pairs pass; the octets follow `start` octets
of a mark. -/
def decode32 (o : Order) (start : Nat) (octets : List UInt8) : Except DecodeFault (List Char) :=
  strictly s!"utf-32-{o.suffixText}" start octets (piecesFrom (firstPiece32 true o) 0 octets)

/-- Reads octets in units of two with the replacement character for every flaw. -/
def replacing16 (o : Order) (octets : List UInt8) : List Char :=
  replaced (piecesFrom (firstPiece16 false o) 0 octets)

/-- Reads octets in units of four with the replacement character for every flaw. -/
def replacing32 (o : Order) (octets : List UInt8) : List Char :=
  replaced (piecesFrom (firstPiece32 false o) 0 octets)

end InlineReview.Text.Wide
