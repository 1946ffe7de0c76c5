import InlineReview.Remote.LabelAlphabet
import InlineReview.Text.Quoted
import InlineReview.Unicode.LowerCase
import InlineReview.Unicode.Script
import InlineReview.Web.DomainName

/-!
# Strict host names

The name of a host to which requests are sent must be written in the characters that labels may
hold, without any reading of what is meant by others.  `HostName.ascii?` writes a name in ASCII,
and `HostName.check` looks whether a name in ASCII stands for one that could be written so.
-/

namespace InlineReview

open Text Unicode Web

/-- Why a name is no strict host name. -/
inductive NameFault where
  | emptyName
  | longName
  | emptyLabel
  | longLabel
  | notComposed
  | innerHyphens
  | outerHyphen
  | leadingMark
  | character (c : Char) (position : Nat) (label : List Char)
  | context (c : Char) (position : Nat) (label : List Char)
  | joiner (c : Char) (position : Nat) (label : List Char)
  | unknownDirection (position : Nat) (label : List Char)
  | direction (fault : DirectionFault) (label : List Char)
  | nothingInPunycode
  | hyphenAfterPunycode
  | notPunycode
  deriving DecidableEq, Repr

namespace NameFault

/-- The name of a code point: at least four hexadecimal digits. -/
def nameOf (c : Char) : String :=
  let digits := (Nat.toDigits 16 (codePoint c)).map Char.toUpper
  "U+" ++ String.ofList (List.replicate (4 - digits.length) '0' ++ digits)

/-- The wording of a fault of direction. -/
def directionText (label : List Char) : DirectionFault → String
  | .start =>
    s!"First codepoint in label {String.ofList (quotedL label)} must be directionality L, R or AL"
  | .against position leftward =>
    let kind := if leftward then "right-to-left" else "left-to-right"
    s!"Invalid direction for codepoint at position {position} in a {kind} label"
  | .mixedNumbers => "Can not mix numeral types in a right-to-left label"
  | .ending => "Label ends with illegal codepoint directionality"

/-- The wording of a fault. -/
def message : NameFault → String
  | .emptyName => "Empty domain"
  | .longName => "Domain too long"
  | .emptyLabel => "Empty Label"
  | .longLabel => "Label too long"
  | .notComposed => "Label must be in Normalization Form C"
  | .innerHyphens => "Label has disallowed hyphens in 3rd and 4th position"
  | .outerHyphen => "Label must not start or end with a hyphen"
  | .leadingMark => "Label begins with an illegal combining character"
  | .character c position label =>
    let shown := String.ofList (quotedL label)
    s!"Codepoint {nameOf c} at position {position} of {shown} not allowed"
  | .context c position label =>
    let shown := String.ofList (quotedL label)
    s!"Codepoint {nameOf c} not allowed at position {position} in {shown}"
  | .joiner c position label =>
    let shown := String.ofList (quotedL label)
    s!"Unknown codepoint adjacent to joiner {nameOf c} at position {position} in {shown}"
  | .unknownDirection position label =>
    let shown := String.ofList (quotedL label)
    s!"Unknown directionality in label {shown} at position {position}"
  | .direction fault label => directionText label fault
  | .nothingInPunycode => "Malformed A-label, no Punycode eligible content found"
  | .hyphenAfterPunycode => "A-label must not end with a hyphen"
  | .notPunycode => "Invalid A-label"

end NameFault

namespace HostName

/-- The most characters of a label. -/
def longestLabel : Nat := 63

/-- The most characters of a name, a dot at its end not counted. -/
def longestName : Nat := 253

/-! ## Characters in their context -/

/-- Is this a character of labels about which no more is known? -/
def isUnknown (c : Char) : Bool := isLabelChar c && ! isPrintable c

/-- The Arabic digits. -/
def arabicDigits : Span := { first := 0x660, last := 0x669 }

/-- The Eastern Arabic digits. -/
def easternDigits : Span := { first := 0x6F0, last := 0x6F9 }

/-- May a character that asks for a context stand between the characters before it, the last one
first, and those after it?  There is no answer for a character that asks for none. -/
def fitsContext? (label before after : List Char) (c : Char) : Option Bool :=
  match c.toNat with
  | 0xB7 => some (before.head? = some 'l' && after.head? = some 'l')
  | 0x375 => some (after.head?.any (inSpans greek))
  | 0x5F3 | 0x5F4 => some (before.head?.any (inSpans hebrew))
  | 0x30FB => some (label.any (inSpans japanese))
  | n =>
    if arabicDigits.holds n then some (! label.any (easternDigits.holds ·.toNat))
    else if easternDigits.holds n then some (! label.any (arabicDigits.holds ·.toNat))
    else none

/-- Looks at the characters of a label one after the other; those before are given from the last
one on. -/
def checkCharacters (label : List Char) : (before after : List Char) → Except NameFault Unit
  | _, [] => .ok ()
  | before, c :: after =>
    let position := before.length + 1
    if isLabelChar c then checkCharacters label (c :: before) after
    else if c = nonJoiner || c = joiner then
      if joinerFits c before after && ! before.head?.any isUnknown then
        checkCharacters label (c :: before) after
      else .error (.joiner c position label)
    else
      match fitsContext? label before after c with
      | some true => checkCharacters label (c :: before) after
      | some false => .error (.context c position label)
      | none => .error (.character c position label)

/-- Looks at the directions of a label's characters; they only matter if there is one from right
to left. -/
def checkDirections (label : List Char) : Except NameFault Unit :=
  match label.findIdx? isUnknown with
  | some i => .error (.unknownDirection (i + 1) label)
  | none =>
    if ! hasLeftward label then .ok ()
    else
      match directionFault? label with
      | some fault => .error (.direction fault label)
      | none => .ok ()

/-! ## Labels -/

/-- Looks whether this is a label in the form in which it is shown. -/
def checkLabel (label : List Char) : Except NameFault Unit := do
  match label with
  | [] => throw .emptyLabel
  | c :: _ =>
    if longestName + 1 < label.length then throw .longLabel
    if composed label != label then throw .notComposed
    if (label.drop 2).take 2 = ['-', '-'] then throw .innerHyphens
    if c = '-' || label.getLast? = some '-' then throw .outerHyphen
    if isMark c && isPrintable c then throw .leadingMark
    checkCharacters label [] label
    checkDirections label

/-- Looks whether a label in ASCII stands for one that could be written so. -/
def checkAscii (label : List Char) : Except NameFault Unit :=
  match dropLead? punycodeLead label with
  | none => checkLabel label
  | some [] => .error .nothingInPunycode
  | some code =>
    if code.getLast? = some '-' then .error .hyphenAfterPunycode
    else
      match Punycode.decode? code with
      | none => .error .notPunycode
      | some ns => checkLabel (ns.map ofCodePoint)

/-- A label in ASCII. -/
def asciiLabel (label : List Char) : Except NameFault (List Char) := do
  if isAscii label then checkAscii label else checkLabel label
  let written := Punycode.asciiLabel label
  if longestLabel < written.length then throw .longLabel
  pure written

/-! ## Names -/

/-- The characters that stand between labels. -/
def dots : List Char := ['.', '\u3002', '\uFF0E', '\uFF61']

/-- The labels of a name, and whether a dot follows the last of them. -/
def labels (name : List Char) : Except NameFault (List (List Char) × Bool) :=
  let ls := piecesWhere (dots.contains ·) name
  if longestName + 1 < name.length then .error .longName
  else if name.isEmpty then .error .emptyName
  else if ls.getLast? = some [] then .ok (ls.dropLast, true)
  else .ok (ls, false)

/-- A name in ASCII. -/
def ascii? (name : List Char) : Except NameFault (List Char) := do
  let (ls, isEnded) ← labels name
  let written ← ls.mapM asciiLabel
  let text := joinWith '.' (written ++ if isEnded then [[]] else [])
  if longestName + (if isEnded then 1 else 0) < text.length then throw .longName
  pure text

/-- Looks whether a name in ASCII stands for one that could be written so. -/
def check (name : List Char) : Except NameFault Unit := do
  let (ls, _) ← labels name
  ls.forM checkAscii

end HostName

end InlineReview
