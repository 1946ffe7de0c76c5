import InlineReview.Decimal.Double
import InlineReview.Decimal.Numeral
import InlineReview.Text.Blank
import InlineReview.Text.Letter

/-!
# Reading a number

`Double.read?` reads the text of a number: blanks around it are ignored, digits may be of any
script, a single underscore may stand between two digits, and the names of infinity and of what
is no number are known in any case of letters.
-/

namespace InlineReview.Double

open InlineReview.Text

/-- Writes every decimal digit as the ASCII digit of the same value. -/
def asciiDigits (s : List Char) : List Char :=
  s.map fun c => match digitValue? c with
    | some d => Char.ofNat (48 + d)
    | none => c

/-- Removes underscores between digits; there may be no others.  `afterDigit` tells whether a
digit came just before. -/
def dropUnderscores : (afterDigit : Bool) → List Char → Option (List Char)
  | _, [] => some []
  | afterDigit, '_' :: c :: r =>
    if afterDigit && isAsciiDigit c then (dropUnderscores true r).map (c :: ·) else none
  | _, c :: r => if c = '_' then none else (dropUnderscores (isAsciiDigit c) r).map (c :: ·)

/-- An optional sign at the front. -/
def splitSign : List Char → Bool × List Char
  | '-' :: r => (true, r)
  | '+' :: r => (false, r)
  | s => (false, s)

/-- A run of digits at the front, as values, and what follows. -/
def splitDigits (s : List Char) : List Nat × List Char :=
  ((s.takeWhile isAsciiDigit).map (·.toNat - 48), s.dropWhile isAsciiDigit)

/-- An exponent that ends the text. -/
def readExponent? : List Char → Option Int
  | [] => some 0
  | e :: r =>
    if e = 'e' || e = 'E' then
      let (negative, r) := splitSign r
      match splitDigits r with
      | (d :: ds, []) =>
        let n : Int := Numeral.ofDigits (d :: ds)
        some (if negative then -n else n)
      | _ => none
    else none

/-- Digits with an optional point and an optional exponent. -/
def readDecimal? (negative : Bool) (s : List Char) : Option Double :=
  let (whole, rest) := splitDigits s
  let (part, rest) := match rest with
    | '.' :: r => splitDigits r
    | r => ([], r)
  if whole.isEmpty && part.isEmpty then none
  else (readExponent? rest).map fun e =>
    ofDecimal negative (Numeral.ofDigits (whole ++ part)) (e - part.length)

/-- Reads the text of a number. -/
def readL? (s : List Char) : Option Double :=
  let (negative, body) := splitSign (asciiDigits (trimL s))
  match String.ofList (body.map lowerAscii) with
  | "inf" | "infinity" => some (.infinite negative)
  | "nan" => some .nan
  | _ => (dropUnderscores false body).bind (readDecimal? negative)

/-- Reads the text of a number. -/
def read? (s : String) : Option Double := readL? s.toList

end InlineReview.Double

namespace InlineReview.Numeral

open InlineReview.Text

/-- Reads a whole number with an optional sign under the same rules, none if it has too many
digits. -/
def readSigned? (s : List Char) : Option Int :=
  let (negative, body) := Double.splitSign (Double.asciiDigits (trimL s))
  match Double.dropUnderscores false body with
  | none => none
  | some ds =>
    if ds.isEmpty || ! ds.all isAsciiDigit || digitLimit < ds.length then none
    else
      let n : Int := ofDigits (ds.map (·.toNat - 48))
      some (if negative then -n else n)

end InlineReview.Numeral
