import InlineReview.Text.Digit
import InlineReview.Text.Printable
import InlineReview.Text.Surrogate

/-!
# Quoted text

A text shown between quotes inside a message.  Apostrophes enclose it unless it holds an
apostrophe and no double quote; the enclosing quote, the backslash and every character that does
not print are written as escapes.
-/

namespace InlineReview.Text

/-- One character inside a text enclosed by `quote`. -/
def quotedChar (quote c : Char) : List Char :=
  if c = quote || c = '\x5c' then ['\x5c', c]
  else if c = '\n' then ['\x5c', 'n']
  else if c = '\r' then ['\x5c', 'r']
  else if c = '\t' then ['\x5c', 't']
  else if isPrintable c then [c]
  else if codePoint c < 0x100 then '\x5c' :: 'x' :: hexDigits 2 (codePoint c)
  else if codePoint c < 0x10000 then '\x5c' :: 'u' :: hexDigits 4 (codePoint c)
  else '\x5c' :: 'U' :: hexDigits 8 (codePoint c)

/-- The quote that encloses a text: a double quote if that avoids escaping an apostrophe. -/
def quoteFor (s : List Char) : Char :=
  if s.contains '\x27' && ! s.contains '\x22' then '\x22' else '\x27'

/-- A text between quotes. -/
def quotedL (s : List Char) : List Char :=
  let quote := quoteFor s
  quote :: s.flatMap (quotedChar quote) ++ [quote]

/-- A text between quotes. -/
def quoted (s : String) : String := String.ofList (quotedL s.toList)

end InlineReview.Text
