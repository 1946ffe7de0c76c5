import InlineReview.Text.Digit
import InlineReview.Text.Quoted

/-!
# Numerals

Whole numbers in decimal digits.  A numeral may use the decimal digits of any script; one of more
than `digitLimit` digits is refused, both when it is read and when it would be written.
-/

namespace InlineReview.Numeral

open InlineReview.Text

/-- The most digits that a numeral may have. -/
def digitLimit : Nat := 4300

/-- The longest part of a refused text that a message repeats. -/
def shownLength : Nat := 200

/-- Why a numeral is refused. -/
inductive Fault where
  | notDecimal (text : String)
  | tooLong (digits : Nat)
  | tooLongToWrite
  deriving DecidableEq, Repr

/-- How a message names the limit. -/
def limitText : String := s!"Exceeds the limit ({digitLimit} digits) for integer string conversion"

/-- How a message says what to do about the limit. -/
def limitAdvice : String := "use sys.set_int_max_str_digits() to increase the limit"

/-- The wording of a refusal. -/
def Fault.message : Fault → String
  | .notDecimal text =>
    let shown := String.ofList ((quotedL text.toList).take shownLength)
    s!"invalid literal for int() with base 10: {shown}"
  | .tooLong digits => s!"{limitText}: value has {digits} digits; {limitAdvice}"
  | .tooLongToWrite => s!"{limitText}; {limitAdvice}"

/-- The value of decimal digits, most significant first. -/
def ofDigits (ds : List Nat) : Nat := ds.foldl (fun n d => n * 10 + d) 0

/-- The values of the decimal digits at the front of a text, and what follows them. -/
def leadingDigits : List Char → List Nat × List Char
  | [] => ([], [])
  | c :: r =>
    match digitValue? c with
    | some d => let (ds, rest) := leadingDigits r; (d :: ds, rest)
    | none => ([], c :: r)

/-- Reads a text that is nothing but decimal digits.  Too many digits are noticed before a
character that is no decimal digit. -/
def read (s : List Char) : Except Fault Nat :=
  let (ds, rest) := leadingDigits s
  if digitLimit < ds.length then .error (.tooLong ds.length)
  else if rest.isEmpty && ! ds.isEmpty then .ok (ofDigits ds)
  else .error (.notDecimal (String.ofList s))

/-- The digits of a number. -/
def digits (n : Nat) : List Char := Nat.toDigits 10 n

/-- Writes a whole number, unless it has too many digits. -/
def write (n : Int) : Except Fault String :=
  if digitLimit < (digits n.natAbs).length then .error .tooLongToWrite else .ok (toString n)

end InlineReview.Numeral
