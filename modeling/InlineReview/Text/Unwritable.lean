import InlineReview.Text.Digit
import InlineReview.Text.Surrogate

/-!
# Text that an encoding cannot write

A text is refused at the first run of characters that an encoding cannot write: ASCII writes the
characters below 128, and UTF-8 all characters but not the halves of pairs.
-/

namespace InlineReview.Text

/-- The encodings that are written. -/
inductive Written where
  | ascii
  | utf8
  deriving DecidableEq, Repr

namespace Written

/-- The name of an encoding. -/
def name : Written → String
  | .ascii => "ascii"
  | .utf8 => "utf-8"

/-- What an encoding does not write. -/
def refusal : Written → String
  | .ascii => "ordinal not in range(128)"
  | .utf8 => "surrogates not allowed"

/-- Can a character be written in an encoding? -/
def holds : Written → Char → Bool
  | .ascii, c => c.toNat < 128
  | .utf8, c => ! isStandIn c

end Written

/-- The first run of characters that an encoding cannot write. -/
structure EncodeFault where
  encoding : Written
  first : Char
  start : Nat
  count : Nat
  deriving DecidableEq, Repr

namespace EncodeFault

/-- The escape of a character. -/
def escape (c : Char) : List Char :=
  let n := codePoint c
  if n < 0x100 then '\x5c' :: 'x' :: hexDigits 2 n
  else if n < 0x10000 then '\x5c' :: 'u' :: hexDigits 4 n
  else '\x5c' :: 'U' :: hexDigits 8 n

/-- The wording of a fault: of a single character its escape, of several their range. -/
def message (f : EncodeFault) : String :=
  let where_ :=
    if f.count = 1 then s!"character '{String.ofList (escape f.first)}' in position {f.start}"
    else s!"characters in position {f.start}-{f.start + f.count - 1}"
  s!"'{f.encoding.name}' codec can't encode {where_}: {f.encoding.refusal}"

/-- The fault of a text in an encoding, if it has one. -/
def of? (encoding : Written) (s : List Char) : Option EncodeFault :=
  let front := s.takeWhile encoding.holds
  match s.drop front.length with
  | [] => none
  | c :: r =>
    let run := (c :: r).takeWhile (! encoding.holds ·)
    some { encoding, first := c, start := front.length, count := run.length }

end EncodeFault

end InlineReview.Text
