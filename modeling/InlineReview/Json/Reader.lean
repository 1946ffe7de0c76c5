import InlineReview.Decimal.Reading
import InlineReview.Json.Basic
import InlineReview.Text.Detected
import InlineReview.Text.Search

/-!
# Reading JSON

`Json.read` reads one document.  Beyond the standard it knows `NaN`, `Infinity` and `-Infinity`;
the last of several members with one name counts.  Arrays and objects may be nested to
`nestingLimit`, and a whole number may have as many digits as any numeral.

What is wrong with a document is found from left to right and told with its place: the number of
characters before it, the line and the column.
-/

namespace InlineReview.Json

open InlineReview.Text

/-- What a reader finds wrong at a place. -/
inductive Complaint where
  | value
  | comma
  | colon
  | memberName
  | unterminated
  | control
  | escape
  | codePoint
  | extra
  | mark
  deriving DecidableEq, Repr

/-- The wording of a complaint. -/
def Complaint.text : Complaint → String
  | .value => "Expecting value"
  | .comma => "Expecting ',' delimiter"
  | .colon => "Expecting ':' delimiter"
  | .memberName => "Expecting property name enclosed in double quotes"
  | .unterminated => "Unterminated string starting at"
  | .control => "Invalid control character at"
  | .escape => "Invalid \x5cescape"
  | .codePoint => "Invalid \x5cuXXXX escape"
  | .extra => "Extra data"
  | .mark => "Unexpected UTF-8 BOM (decode using utf-8-sig)"

/-- A value that holds other values. -/
inductive Container where
  | array
  | object
  deriving DecidableEq, Repr

/-- The name of a container in a message. -/
def Container.text : Container → String
  | .array => "array"
  | .object => "object"

/-- A limit of the reader that a document passes. -/
inductive Limit where
  | tooDeep (container : Container)
  | tooLong (digits : Nat)
  deriving DecidableEq, Repr

/-- The wording of a passed limit. -/
def Limit.message : Limit → String
  | .tooDeep container =>
    "maximum recursion depth exceeded while decoding a JSON " ++
      s!"{container.text} from a unicode string"
  | .tooLong digits => (Numeral.Fault.tooLong digits).message

/-- What is wrong with a document, and where. -/
structure Malformed where
  what : Complaint
  line : Nat
  column : Nat
  position : Nat
  deriving DecidableEq, Repr

/-- The wording of what is wrong. -/
def Malformed.message (m : Malformed) : String :=
  s!"{m.what.text}: line {m.line} column {m.column} (char {m.position})"

/-- Why reading stopped.  A place is given by the number of characters that are left there. -/
inductive Stop where
  | complaint (what : Complaint) (left : Nat)
  | limit (passed : Limit)
  deriving DecidableEq, Repr

/-- Why a text is no document. -/
inductive ReadFault where
  | malformed (m : Malformed)
  | limit (passed : Limit)
  deriving DecidableEq, Repr

/-- The wording of a fault. -/
def ReadFault.message : ReadFault → String
  | .malformed m => m.message
  | .limit passed => passed.message

/-! ## Tokens -/

/-- Is this a character that may stand between tokens? -/
def isSpace (c : Char) : Bool := c = ' ' || c = '\t' || c = '\n' || c = '\r'

/-- Drops the characters between tokens. -/
def skipSpace (s : List Char) : List Char := s.dropWhile isSpace

/-- The character that a letter after a backslash stands for. -/
def simpleEscape? : Char → Option Char
  | '\x22' => some '\x22'
  | '\x5c' => some '\x5c'
  | '/' => some '/'
  | 'b' => some '\x08'
  | 'f' => some '\x0c'
  | 'n' => some '\n'
  | 'r' => some '\r'
  | 't' => some '\t'
  | _ => none

/-- The value of four hexadecimal digits at the front of a text. -/
def hexQuad? : List Char → Option Nat
  | a :: b :: c :: d :: _ => do
    let a ← hexValue? a
    let b ← hexValue? b
    let c ← hexValue? c
    let d ← hexValue? d
    pure (a * 4096 + b * 256 + c * 16 + d)
  | _ => none

/-- The second half of a pair written as an escape, if such an escape follows with at least one
character after it. -/
def secondHalf (s : List Char) : Except Stop (Option Nat) :=
  match s with
  | '\x5c' :: 'u' :: r =>
    if r.length ≤ 4 then .ok none
    else match hexQuad? r with
      | some n => .ok (if isLow n then some n else none)
      | none => .error (.complaint .codePoint (r.length + 1))
  | _ => .ok none

/-- The character of an escape and how many characters it takes after the backslash.  `body` is
what follows the backslash, `opening` the number of characters left at the opening quote. -/
def readEscape (opening : Nat) (body : List Char) : Except Stop (Char × Nat) :=
  match body with
  | [] => .error (.complaint .unterminated opening)
  | 'u' :: r =>
    if r.length ≤ 4 then .error (.complaint .codePoint body.length)
    else match hexQuad? r with
      | none => .error (.complaint .codePoint body.length)
      | some n =>
        if isHigh n then
          (secondHalf (r.drop 4)).map fun
            | some m => (Char.ofNat (joinPair n m), 11)
            | none => (ofCodePoint n, 5)
        else .ok (ofCodePoint n, 5)
  | c :: _ =>
    match simpleEscape? c with
    | some e => .ok (e, 1)
    | none => .error (.complaint .escape (body.length + 1))

/-- The characters of a string up to its closing quote, and what follows it.  The first `owed`
characters belong to an escape already read. -/
def readString (opening : Nat) : (owed : Nat) → List Char → Except Stop (List Char × List Char)
  | _, [] => .error (.complaint .unterminated opening)
  | k + 1, _ :: r => readString opening k r
  | 0, c :: r =>
    if c = '\x22' then .ok ([], r)
    else if c = '\x5c' then
      match readEscape opening r with
      | .error stop => .error stop
      | .ok (e, size) => (readString opening size r).map fun (s, rest) => (e :: s, rest)
    else if c.toNat < 0x20 then .error (.complaint .control (r.length + 1))
    else (readString opening 0 r).map fun (s, rest) => (c :: s, rest)

/-- The parts of a number: the digits before the point, those after it and the exponent. -/
structure NumberToken where
  negative : Bool
  whole : List Char
  fraction : Option (List Char)
  exponent : Option Int
  deriving DecidableEq, Repr

/-- The value of ASCII digits. -/
def digitsValue (ds : List Char) : Nat := Numeral.ofDigits (ds.map (·.toNat - 48))

/-- A fraction at the front of a text: a point with at least one digit after it. -/
def splitFraction (s : List Char) : Option (List Char) × List Char :=
  match s with
  | '.' :: r =>
    let ds := r.takeWhile isAsciiDigit
    if ds.isEmpty then (none, s) else (some ds, r.dropWhile isAsciiDigit)
  | _ => (none, s)

/-- An exponent at the front of a text: its mark, a sign or none, at least one digit. -/
def splitExponent (s : List Char) : Option Int × List Char :=
  match s with
  | e :: r =>
    if e = 'e' || e = 'E' then
      let (negative, r) := Double.splitSign r
      let ds := r.takeWhile isAsciiDigit
      if ds.isEmpty then (none, s)
      else
        let n : Int := digitsValue ds
        (some (if negative then -n else n), r.dropWhile isAsciiDigit)
    else (none, s)
  | [] => (none, s)

/-- A number at the front of a text. -/
def splitNumber? (s : List Char) : Option (NumberToken × List Char) :=
  let (negative, r) := match s with
    | '-' :: r => (true, r)
    | _ => (false, s)
  let whole := match r with
    | '0' :: _ => ['0']
    | _ => r.takeWhile isAsciiDigit
  if whole.isEmpty then none
  else
    let (fraction, r) := splitFraction (r.drop whole.length)
    let (exponent, r) := splitExponent r
    some ({ negative, whole, fraction, exponent }, r)

/-- The value of a number: whole unless it has a fraction or an exponent. -/
def NumberToken.value (t : NumberToken) : Except Stop Json :=
  match t.fraction, t.exponent with
  | none, none =>
    if Numeral.digitLimit < t.whole.length then .error (.limit (.tooLong t.whole.length))
    else
      let n : Int := digitsValue t.whole
      .ok (.int (if t.negative then -n else n))
  | fraction, exponent =>
    let part := fraction.getD []
    .ok (.real (Double.ofDecimal t.negative (digitsValue (t.whole ++ part))
      (exponent.getD 0 - part.length)))

/-- The values that are written as a word. -/
def wordValues : List (String × Json) :=
  [("null", .null), ("true", .bool true), ("false", .bool false), ("NaN", .real .nan),
    ("Infinity", .real (.infinite false)), ("-Infinity", .real (.infinite true))]

/-- A word at the front of a text. -/
def splitWord? (s : List Char) : Option (Json × List Char) :=
  wordValues.findSome? fun (word, value) =>
    (dropLead? word.toList s).map fun rest => (value, rest)

/-! ## Values -/

mutual

/-- A value at the front of a text.  Two steps take a character at least, so `fuel` above twice the
length of the text suffices; `depth` is how many containers may still be opened. -/
def readValue : (fuel depth : Nat) → List Char → Except Stop (Json × List Char)
  | 0, _, s => .error (.complaint .value s.length)
  | fuel + 1, depth, s =>
    match s with
    | [] => .error (.complaint .value 0)
    | c :: r =>
      if c = '\x22' then
        (readString s.length 0 r).map fun (t, rest) => (.str (String.ofList t), rest)
      else if c = '\x7b' then
        match depth with
        | 0 => .error (.limit (.tooDeep .object))
        | depth + 1 =>
          match skipSpace r with
          | '\x7d' :: rest => .ok (.obj [], rest)
          | r => (readMembers fuel depth r).map fun (ms, rest) => (.obj (Assoc.ofList ms), rest)
      else if c = '[' then
        match depth with
        | 0 => .error (.limit (.tooDeep .array))
        | depth + 1 =>
          match skipSpace r with
          | ']' :: rest => .ok (.arr [], rest)
          | r => (readElements fuel depth r).map fun (vs, rest) => (.arr vs, rest)
      else
        match splitWord? s with
        | some found => .ok found
        | none =>
          match splitNumber? s with
          | some (token, rest) => token.value.map fun v => (v, rest)
          | none => .error (.complaint .value s.length)

/-- The elements of an array after its bracket, and what follows the closing one. -/
def readElements : (fuel depth : Nat) → List Char → Except Stop (List Json × List Char)
  | 0, _, s => .error (.complaint .value s.length)
  | fuel + 1, depth, s =>
    match readValue fuel depth s with
    | .error stop => .error stop
    | .ok (v, r) =>
      match skipSpace r with
      | ']' :: rest => .ok ([v], rest)
      | ',' :: r => (readElements fuel depth (skipSpace r)).map fun (vs, rest) => (v :: vs, rest)
      | r => .error (.complaint .comma r.length)

/-- The members of an object after its brace, and what follows the closing one. -/
def readMembers : (fuel depth : Nat) → List Char →
    Except Stop (List (String × Json) × List Char)
  | 0, _, s => .error (.complaint .memberName s.length)
  | fuel + 1, depth, s =>
    match s with
    | '\x22' :: r =>
      match readString s.length 0 r with
      | .error stop => .error stop
      | .ok (name, r) =>
        match skipSpace r with
        | ':' :: r =>
          match readValue fuel depth (skipSpace r) with
          | .error stop => .error stop
          | .ok (v, r) =>
            let member := (String.ofList name, v)
            match skipSpace r with
            | '\x7d' :: rest => .ok ([member], rest)
            | ',' :: r =>
              (readMembers fuel depth (skipSpace r)).map fun (ms, rest) => (member :: ms, rest)
            | r => .error (.complaint .comma r.length)
        | r => .error (.complaint .colon r.length)
    | _ => .error (.complaint .memberName s.length)

end

/-! ## Documents -/

/-- Reads a text that holds one value and nothing else. -/
def readWhole (s : List Char) : Except Stop Json :=
  match readValue (2 * s.length + 2) nestingLimit (skipSpace s) with
  | .error stop => .error stop
  | .ok (v, r) =>
    match skipSpace r with
    | [] => .ok v
    | r => .error (.complaint .extra r.length)

/-- Tells the place of a complaint in the text that was read. -/
def Stop.locate (s : List Char) : Stop → ReadFault
  | .complaint what left =>
    let position := s.length - left
    let before := s.take position
    let line := before.count '\n' + 1
    let column := (before.reverse.takeWhile (· != '\n')).length + 1
    .malformed { what, line, column, position }
  | .limit passed => .limit passed

/-- Reads a document that has no byte order mark. -/
def readUnmarked (s : List Char) : Except ReadFault Json :=
  match readWhole s with
  | .ok v => .ok v
  | .error stop => .error (stop.locate s)

/-- Reads a document; a byte order mark at its front is refused. -/
def readL (s : List Char) : Except ReadFault Json :=
  match s with
  | '\uFEFF' :: _ => .error (.malformed { what := .mark, line := 1, column := 1, position := 0 })
  | _ => readUnmarked s

/-- Reads a document; a byte order mark at its front is refused. -/
def read (s : String) : Except ReadFault Json := readL s.toList

/-- Why octets are no document. -/
inductive BodyFault where
  | undecodable (fault : DecodeFault)
  | unreadable (fault : ReadFault)
  deriving DecidableEq, Repr

/-- The wording of a fault. -/
def BodyFault.message : BodyFault → String
  | .undecodable fault => fault.message
  | .unreadable fault => fault.message

/-- Reads a document in the encoding that its octets show. -/
def ofOctets (octets : List UInt8) : Except BodyFault Json :=
  match decodeDetected octets with
  | .error fault => .error (.undecodable fault)
  | .ok s => (readUnmarked s).mapError .unreadable

end InlineReview.Json
