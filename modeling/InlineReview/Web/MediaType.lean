import InlineReview.Decimal.Numeral
import InlineReview.Text.Charset
import InlineReview.Text.Letter
import InlineReview.Web.Percent

/-!
# Parameters of media types

A media type such as `text/plain; charset=utf-8` names the encoding of a body in a parameter.  A
value may stand in quotes.  It may also come in numbered parts and with escapes for octets, behind
the name of the encoding of those octets; such a value counts only if there is no plain one.
-/

namespace InlineReview.Web

open Text

/-- A parameter as it is written. -/
structure Parameter where
  name : List Char
  value : List Char
  deriving DecidableEq, Repr

/-- One part of a value. -/
structure Part where
  number : Option Nat
  value : List Char
  isEscaped : Bool
  deriving DecidableEq, Repr

/-! ## Splitting -/

/-- The pieces between semicolons; one inside quotes does not count.  A quote behind a backslash
is none. -/
def parameterTexts : (inQuotes afterBackslash : Bool) → List Char → List (List Char)
  | _, _, [] => [[]]
  | inQuotes, afterBackslash, c :: r =>
    if c = ';' && ! inQuotes then [] :: parameterTexts false false r
    else
      let inQuotes := if c = '\x22' && ! afterBackslash then ! inQuotes else inQuotes
      match parameterTexts inQuotes (c = '\x5c') r with
      | [] => [[c]]
      | w :: ws => (c :: w) :: ws

/-- Reads a parameter: without an equals sign it is a name alone. -/
def Parameter.ofText (s : List Char) : Parameter :=
  match breakAt '=' s with
  | (name, some value) => { name := (trimL name).map lowerAscii, value := trimL value }
  | (name, none) => { name := trimL name, value := [] }

/-- The parameters of a media type, the type itself among them. -/
def parametersOf (mediaType : List Char) : List Parameter :=
  (parameterTexts false false mediaType).map Parameter.ofText

/-! ## Values -/

/-- Takes away each backslash before the character `escaped`; `held` tells of a backslash just
before the text. -/
def dropBackslashes (escaped : Char) : (held : Bool) → List Char → List Char
  | held, [] => if held then ['\x5c'] else []
  | false, c :: r =>
    if c = '\x5c' then dropBackslashes escaped true r else c :: dropBackslashes escaped false r
  | true, c :: r =>
    if c = escaped then c :: dropBackslashes escaped false r
    else if c = '\x5c' then '\x5c' :: dropBackslashes escaped true r
    else '\x5c' :: c :: dropBackslashes escaped false r

/-- What stands between two signs. -/
def between? (opening closing : Char) (s : List Char) : Option (List Char) :=
  match s with
  | c :: r => if c = opening && r.getLast? = some closing then some r.dropLast else none
  | [] => none

/-- A value without the quotes or angle brackets around it. -/
def unquoted (s : List Char) : List Char :=
  match between? '\x22' '\x22' s with
  | some inside => dropBackslashes '\x22' false (dropBackslashes '\x5c' false inside)
  | none => (between? '<' '>' s).getD s

/-- The octets for which escapes stand, each as the character with its number. -/
def octetChars (s : List Char) : List Char := (unescaped 0 s).map fun b => Char.ofNat b.toNat

/-! ## Values in parts -/

/-- The name to which a part of a value belongs, and the number of the part: behind the name
stand a star and possibly a number and another star. -/
def partName? (name : List Char) : Option (List Char × Option Nat) :=
  match breakAt '*' name with
  | (word, some rest) =>
    if word.isEmpty || ! word.all fun c => c.isAlphanum || c = '_' then none
    else if rest.isEmpty then some (word, none)
    else
      let digits := rest.takeWhile isAsciiDigit
      if ! digits.isEmpty && (rest.drop digits.length = [] || rest.drop digits.length = ['*']) then
        some (word, some (Numeral.ofDigits (digits.map (·.toNat - 48))))
      else none
  | (_, none) => none

/-- The parts of values among parameters, by name in the order in which they first come. -/
def partsByName : List Parameter → List (List Char × List Part)
  | ps => ps.foldl (fun found p =>
    match partName? p.name with
    | none => found
    | some (word, number) =>
      let part : Part :=
        { number, value := unquoted p.value, isEscaped := p.name.getLast? = some '*' }
      if found.any (·.1 = word) then
        found.map fun (name, parts) =>
          if name = word then (name, parts ++ [part]) else (name, parts)
      else found ++ [(word, [part])]) []

/-- Does a part come before another one or is it equal to it? -/
def Part.comesFirst (p q : Part) : Bool :=
  if p.number != q.number then p.number.getD 0 < q.number.getD 0
  else if p.value != q.value then decide (String.ofList p.value < String.ofList q.value)
  else ! p.isEscaped || q.isEscaped

/-- Refuses parts of which one has a number and the next has none, or the other way round. -/
def checkParts : List Part → Except CharsetFault Unit
  | p :: q :: rest =>
    if p.number.isSome != q.number.isSome then .error (.mixedParts p.number.isSome)
    else checkParts (q :: rest)
  | _ => .ok ()

/-- A value in parts, put together. -/
def joinedValue (parts : List Part) : List Char :=
  (parts.mergeSort Part.comesFirst).flatMap fun p =>
    if p.isEscaped then octetChars p.value else p.value

/-- Reads octets, given as characters, in a named encoding; they stay as they are if that cannot
be done. -/
def rereadIn (encoding octets : List Char) : List Char :=
  let name := if encoding.isEmpty then "us-ascii" else String.ofList encoding
  match Charset.named? name with
  | none => octets
  | some charset =>
    match charset.readUnmarked (octets.map fun c => UInt8.ofNat c.toNat) with
    | .ok text => if text.contains replacement then octets else text
    | .error _ => octets

/-- The value of parts: if there are escapes in one of them, the name of an encoding and that of a
language may stand before it, each with an apostrophe behind it. -/
def valueOfParts (parts : List Part) : List Char :=
  let value := joinedValue parts
  if ! parts.any (·.isEscaped) then value
  else
    match breakAt '\x27' value with
    | (encoding, some rest) =>
      match breakAt '\x27' rest with
      | (_, some octets) => rereadIn encoding octets
      | (_, none) => rereadIn [] value
    | (_, none) => rereadIn [] value

/-! ## The encoding -/

/-- The name of the parameter with the encoding. -/
def charsetParameter : List Char := "charset".toList

/-- Is this the name of the parameter with the encoding? -/
def isCharset (name : List Char) : Bool := name.map lowerAscii = charsetParameter

/-- The name of the encoding in a media type, if there is one in ASCII.  The first parameter is
never a part of a value. -/
def charsetName? (mediaType : String) : Except CharsetFault (Option String) := do
  let ps := parametersOf mediaType.toList
  let groups : List (List Char × List Part) := partsByName (ps.drop 1)
  groups.forM fun (_, parts) => checkParts parts
  let plain := ps.head?.toList ++ (ps.drop 1).filter fun p => (partName? p.name).isNone
  let value : Option (List Char) :=
    match plain.find? (isCharset ·.name) with
    | some p => some (unquoted p.value)
    | none => (groups.find? (isCharset ·.1)).map (valueOfParts ·.2)
  pure (value.bind fun s =>
    if s.all (·.toNat < 128) then some (String.ofList (s.map lowerAscii)) else none)

/-- Reads a body in the encoding that its media type names, in UTF-8 if it names none that there
is. -/
def readBody (mediaType : Option String) (octets : List UInt8) :
    Except CharsetFault (List Char) := do
  if octets.isEmpty then return []
  let name ← match mediaType with
    | none => pure none
    | some t => charsetName? t
  ((name.bind Charset.named?).getD .utf8).read octets

end InlineReview.Web
