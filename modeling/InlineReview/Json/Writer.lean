import InlineReview.Decimal.Shortest
import InlineReview.Json.Basic
import InlineReview.Text.Digit
import InlineReview.Text.Surrogate

/-!
# Writing JSON

A value is written without any space between tokens.  `Json.compact` writes it in ASCII: every
other character of a string is written as one escape of four hexadecimal digits, or as two for a
character beyond the basic plane.  `Json.plainL` writes such characters as they are.
-/

namespace InlineReview.Json

open InlineReview.Text

/-- An escape of four hexadecimal digits. -/
def unitEscape (n : Nat) : List Char := '\x5c' :: 'u' :: hexDigits 4 n

/-- One character inside a string that escapes no more than it must. -/
def plainChar (c : Char) : List Char :=
  if c = '\x22' || c = '\x5c' then ['\x5c', c]
  else if c = '\n' then ['\x5c', 'n']
  else if c = '\r' then ['\x5c', 'r']
  else if c = '\t' then ['\x5c', 't']
  else if c = '\x08' then ['\x5c', 'b']
  else if c = '\x0c' then ['\x5c', 'f']
  else if c.toNat < 0x20 then unitEscape c.toNat
  else [c]

/-- One character inside a string in ASCII. -/
def asciiChar (c : Char) : List Char :=
  let n := codePoint c
  if n < 0x7F then plainChar c
  else if n < 0x10000 then unitEscape n
  else
    unitEscape (0xD800 + (n - 0x10000) / 0x400) ++ unitEscape (0xDC00 + (n - 0x10000) % 0x400)

/-- A string between its quotes, with each character as `char` writes it. -/
def writtenString (char : Char → List Char) (s : List Char) : List Char :=
  '\x22' :: s.flatMap char ++ ['\x22']

/-- A floating point number. -/
def writtenReal : Double → List Char
  | .infinite negative => if negative then "-Infinity".toList else "Infinity".toList
  | .nan => "NaN".toList
  | d => d.textL

mutual

/-- A value, with each character of a string as `char` writes it. -/
def writtenL (char : Char → List Char) : Json → List Char
  | .null => "null".toList
  | .bool b => if b then "true".toList else "false".toList
  | .int n => (toString n).toList
  | .real d => writtenReal d
  | .str s => writtenString char s.toList
  | .arr elements => '[' :: writtenElements char elements ++ [']']
  | .obj members => '\x7b' :: writtenMembers char members ++ ['\x7d']

/-- Elements with commas between them. -/
def writtenElements (char : Char → List Char) : List Json → List Char
  | [] => []
  | [v] => writtenL char v
  | v :: vs => writtenL char v ++ ',' :: writtenElements char vs

/-- Members with commas between them. -/
def writtenMembers (char : Char → List Char) : List (String × Json) → List Char
  | [] => []
  | [(name, v)] => writtenString char name.toList ++ ':' :: writtenL char v
  | (name, v) :: ms =>
    writtenString char name.toList ++ ':' :: writtenL char v ++ ',' :: writtenMembers char ms

end

/-- A value with its strings as they are. -/
def plainL (v : Json) : List Char := writtenL plainChar v

/-- A value in ASCII. -/
def compact (v : Json) : String := String.ofList (writtenL asciiChar v)

end InlineReview.Json
