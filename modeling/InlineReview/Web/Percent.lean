import InlineReview.Text.Digit
import InlineReview.Text.Utf8

/-!
# Percent encoding

A character outside the printable ASCII range is written as a percent sign and two hexadecimal
digits for each of its octets, and so is a character of a set that depends on the part of the
address.
-/

namespace InlineReview.Web

open Text

/-- The escape of an octet. -/
def escapedOctet (b : UInt8) : List Char := '%' :: (hexDigits 2 b.toNat).map Char.toUpper

/-- A character, escaped if it is not printable ASCII or in the given set. -/
def escapedChar (set : List Char) (c : Char) : List Char :=
  if 0x20 ≤ c.toNat && c.toNat < 0x7F && ! set.contains c then [c]
  else (Utf8.encodeChar c).flatMap escapedOctet

/-- A text with the characters of a set escaped. -/
def escaped (set : List Char) (s : List Char) : List Char := s.flatMap (escapedChar set)

/-- What is escaped in a fragment. -/
def fragmentSet : List Char := [' ', '\x22', '<', '>', '\x60']

/-- What is escaped in a query. -/
def querySet : List Char := [' ', '\x22', '#', '<', '>']

/-- What is escaped in the query of a web address. -/
def webQuerySet : List Char := '\x27' :: querySet

/-- What is escaped in a path. -/
def pathSet : List Char := ['#', '?', '\x7b', '\x7d'] ++ fragmentSet

/-- What is escaped in a user name or a password. -/
def userSet : List Char := ['/', ':', ';', '=', '@', '[', '\x5c', ']', '^', '|'] ++ pathSet

/-- The octets of a text in which escapes stand for octets. -/
def unescaped : (owed : Nat) → List Char → List UInt8
  | _, [] => []
  | k + 1, _ :: r => unescaped k r
  | 0, c :: r =>
    match c, r with
    | '%', a :: b :: _ =>
      match hexValue? a, hexValue? b with
      | some x, some y => UInt8.ofNat (x * 16 + y) :: unescaped 2 r
      | _, _ => Utf8.encodeChar c ++ unescaped 0 r
    | _, _ => Utf8.encodeChar c ++ unescaped 0 r

end InlineReview.Web
