import InlineReview.Text.Digit

/-!
# Octets that are not text

A decoder cuts octets into pieces: a character, two that are written as one, or a run of octets that
begins no character.
`firstFault` is what a strict reader reports and `replaced` what a lenient one reads, the
replacement character for every flawed run.
-/

namespace InlineReview.Text

/-- Why a run of octets begins no character. -/
inductive Flaw where
  | invalidStart
  | invalidContinuation
  | unexpectedEnd
  | truncated
  | outOfRange
  | loneHalf
  deriving DecidableEq, Repr

/-- The wording of a flaw. -/
def Flaw.text : Flaw → String
  | .invalidStart => "invalid start byte"
  | .invalidContinuation => "invalid continuation byte"
  | .unexpectedEnd => "unexpected end of data"
  | .truncated => "truncated data"
  | .outOfRange => "code point not in range(0x110000)"
  | .loneHalf => "illegal encoding"

/-- A piece of octets, with the number of octets it takes. -/
inductive Piece where
  | char (c : Char) (size : Nat)
  | pair (c d : Char) (size : Nat)
  | flawed (why : Flaw) (size : Nat)
  deriving DecidableEq, Repr

/-- How many octets a piece takes. -/
def Piece.size : Piece → Nat
  | .char _ n => n
  | .pair _ _ n => n
  | .flawed _ n => n

/-- The character that is read for a flaw. -/
def replacement : Char := '\uFFFD'

/-- The characters read for a piece by a lenient reader. -/
def Piece.chars : Piece → List Char
  | .char c _ => [c]
  | .pair c d _ => [c, d]
  | .flawed _ _ => [replacement]

/-- The first run of octets that a strict reader cannot read: where it starts, and the octets. -/
structure DecodeFault where
  encoding : String
  start : Nat
  octets : List UInt8
  why : Flaw
  deriving DecidableEq, Repr

/-- The wording of a decoding fault: one octet is named, of several the range is given. -/
def DecodeFault.message (f : DecodeFault) : String :=
  let where_ :=
    match f.octets with
    | [b] => s!"byte 0x{String.ofList (hexDigits 2 b.toNat)} in position {f.start}"
    | bs => s!"bytes in position {f.start}-{f.start + bs.length - 1}"
  s!"'{f.encoding}' codec can't decode {where_}: {f.why.text}"

/-- The characters of pieces that hold no flaw, or the first fault.  The pieces are those of
`octets`, which start at `start`. -/
def strictly (encoding : String) :
    (start : Nat) → (octets : List UInt8) → List Piece → Except DecodeFault (List Char)
  | _, _, [] => .ok []
  | start, octets, .char c n :: ps =>
    (strictly encoding (start + n) (octets.drop n) ps).map (c :: ·)
  | start, octets, .pair c d n :: ps =>
    (strictly encoding (start + n) (octets.drop n) ps).map fun cs => c :: d :: cs
  | start, octets, .flawed why n :: _ =>
    .error { encoding, start, octets := octets.take n, why }

/-- The characters of pieces, with the replacement character for each flaw. -/
def replaced (ps : List Piece) : List Char := ps.flatMap Piece.chars

end InlineReview.Text
