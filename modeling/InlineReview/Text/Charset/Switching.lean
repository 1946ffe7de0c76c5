import InlineReview.Text.Charset.Octets
import InlineReview.Text.Charset.Pairs
import InlineReview.Text.Charset.Steps
import InlineReview.Text.Surrogate

/-!
# Character sets that switch

Some encodings switch between character sets by sequences of ASCII characters.  The state of a
reader holds the sets that are in use.
-/

namespace InlineReview.Text

/-! ## Escape sequences -/

namespace Switching

/-- The sets between which escape sequences switch. -/
inductive Member where
  | ascii
  | latin
  | greek
  | roman
  | syllables
  | japanese
  | oldJapanese
  | rareJapanese
  | firstPlane (revised : Bool)
  | secondPlane
  | chinese
  | korean
  deriving DecidableEq, Repr

/-- The set that is called by a final character, alone or with a mark for pairs. -/
def Member.called? (pairs : Bool) (final : Char) : Option Member :=
  match pairs, final with
  | false, 'B' => some .ascii
  | false, 'A' => some .latin
  | false, 'F' => some .greek
  | false, 'J' => some .roman
  | false, 'I' => some .syllables
  | true, 'B' => some .japanese
  | true, '@' => some .oldJapanese
  | true, 'D' => some .rareJapanese
  | true, 'O' => some (.firstPlane false)
  | true, 'P' => some .secondPlane
  | true, 'Q' => some (.firstPlane true)
  | true, 'A' => some .chinese
  | true, 'C' => some .korean
  | _, _ => none

/-- Is this a set of pairs? -/
def Member.isOfPairs : Member → Bool
  | .ascii | .latin | .greek | .roman | .syllables => false
  | _ => true

/-- The characters at a row and a column of a set of pairs.  A tilde of the first plane is that of
ASCII, and the second plane is the revised one. -/
def Member.pair? (row column : Nat) : Member → Option (List Char)
  | .japanese | .oldJapanese => (gridChar? jisX0208 row column).map ([·])
  | .rareJapanese => (gridChar? jisX0212 row column).map ([·])
  | .firstPlane revised =>
    if (row, column) = tildePlace then some ['~'] else firstPlane? revised row column
  | .secondPlane => (secondPlaneChar? true row column).map ([·])
  | .chinese => (gridChar? gb2312 row column).map ([·])
  | .korean => (gridChar? ksX1001 row column).map ([·])
  | _ => none

/-- The character of a single octet. -/
def Member.single? (b : Nat) : Member → Option Char
  | .ascii => some (Char.ofNat b)
  | .roman => some (if b = 0x5C then Char.ofNat 0xA5 else if b = 0x7E then Char.ofNat 0x203E
      else Char.ofNat b)
  | .syllables => syllableOctet? (b + 0x80)
  | _ => none

/-- An encoding with escape sequences: its sets, whether two controls shift between the first two
sets called, whether a sequence may carry a revision, and whether there is a third set called for
single characters. -/
structure Scheme where
  members : List Member
  shifts : Bool := false
  revisions : Bool := true
  third : Bool := false
  deriving DecidableEq, Repr

/-- Where a reader is: the sets called so far, whether the second one is in use, whether an unknown
sequence is passed through, and the length of a sequence that does not end. -/
structure State where
  first : Member := .ascii
  second : Member := .ascii
  third : Member := .ascii
  isShifted : Bool := false
  passes : Bool := false
  unfinished : Nat := 0
  deriving DecidableEq, Repr

/-- The control that begins a sequence. -/
def escape : UInt8 := 0x1B

/-- May this character come second in a sequence that calls a set? -/
def isOpener (c : Char) : Bool := ['(', ')', '$', '.', '&'].contains c

/-- Does this character end a sequence? -/
def isFinal (c : Char) : Bool := ('A' ≤ c && c ≤ 'Z') || c = '@'

/-- How a sequence ends. -/
inductive Ending where
  | tooFew
  | never
  | after (length : Nat)
  deriving DecidableEq, Repr

/-- The most octets of a sequence. -/
def longestSequence : Nat := 16

/-- Looks for the end of a sequence from its octet `i` on; a revision and what follows it are passed
over. -/
def endingFrom (revisions : Bool) : (fuel i : Nat) → List Char → Ending
  | 0, _, _ => .never
  | _ + 1, _, [] => .tooFew
  | fuel + 1, i, c :: r =>
    if longestSequence ≤ i then .never
    else if isFinal c then .after (i + 1)
    else if revisions && c = '&' && r.head? = some '@' then
      if longestSequence ≤ i + 3 then .never else endingFrom revisions fuel (i + 3) (r.drop 2)
    else if longestSequence ≤ i + 1 then .never
    else endingFrom revisions fuel (i + 1) r

/-- What a whole sequence calls: the place it calls a set to, whether the set is one of pairs, and
the final character.  A revision takes three octets before the call. -/
def callOf? (k : Scheme) (sequence : List Char) : Option (Nat × Bool × Char) :=
  match sequence with
  | [_, '$', final] => some (0, true, final)
  | [_, '(', final] => some (0, false, final)
  | [_, ')', final] => some (1, false, final)
  | [_, '.', final] => if k.third then some (2, false, final) else none
  | [_, '$', '(', final] => some (0, true, final)
  | [_, '$', ')', final] => some (1, true, final)
  | [_, _, _, '\x1b', '$', 'B'] => if k.revisions then some (0, true, 'B') else none
  | _ => none

/-- The state after a set is called to a place. -/
def State.call (st : State) (place : Nat) (m : Member) : State :=
  match place with
  | 0 => { st with first := m }
  | 1 => { st with second := m }
  | _ => { st with third := m }

/-- A flaw. -/
def flaw (st : State) (size : Nat) : Taken State := { state := st, chars := [replacement], size }

/-- One character. -/
def char (st : State) (c : Char) (size : Nat) : Taken State := { state := st, chars := [c], size }

/-- Takes a sequence that calls a set. -/
def takeCall (k : Scheme) (st : State) (text : List Char) : Taken State :=
  match endingFrom k.revisions longestSequence 1 (text.drop 1) with
  | .tooFew => flaw { st with unfinished := text.length } text.length
  | .never => flaw st 1
  | .after n =>
    match callOf? k (text.take n) with
    | none => flaw st n
    | some (place, pairs, final) =>
      match Member.called? pairs final with
      | none => flaw st n
      | some m =>
        if m = .ascii || k.members.contains m then
          { state := st.call place m, chars := [], size := n }
        else flaw st n

/-- The characters of the Greek set above ASCII. -/
def greekSpans : List Unicode.MapSpan :=
  Unicode.mapSpansOf ((octetSets.lookup "iso8859_7").getD [])

/-- Takes a single character of the third set called. -/
def takeThird (st : State) (b : UInt8) : Taken State :=
  match st.third with
  | .latin => if b < 0x80 then char st (Char.ofNat (b.toNat + 0x80)) 3 else flaw st 3
  | .greek =>
    match octetChar? greekSpans (b ^^^ 0x80) with
    | some c => char st c 3
    | none => flaw st 3
  | _ => if b < 0x80 then char st (Char.ofNat b.toNat) 3 else flaw st 3

/-- Takes a character of the set in use. -/
def takeChar (st : State) (b : UInt8) (rest : List UInt8) : Taken State :=
  let m := if st.isShifted then st.second else st.first
  if m.isOfPairs then
    match rest with
    | [] => flaw st 1
    | b₂ :: _ =>
      match m.pair? (b.toNat - 0x20) (b₂.toNat - 0x20) with
      | some chars => { state := st, chars, size := 2 }
      | none => flaw st 2
  else
    match m.single? b.toNat with
    | some c => char st c 1
    | none => flaw st 1

/-- A step of a reader. -/
def step (k : Scheme) (st : State) (b : UInt8) (rest : List UInt8) : Taken State :=
  let c := Char.ofNat b.toNat
  if st.passes then char { st with passes := ! isFinal c } c 1
  else if b = escape then
    match rest with
    | [] => flaw st 1
    | b₂ :: more =>
      if isOpener (Char.ofNat b₂.toNat) then
        takeCall k st ((b :: rest).map fun n => Char.ofNat n.toNat)
      else if k.third && b₂ = 0x4E then
        match more with
        | [] => flaw st 2
        | b₃ :: _ => takeThird st b₃
      else char { st with passes := true } c 1
  else if b = 0x0F && k.shifts then
    { state := { st with isShifted := false }, chars := [], size := 1 }
  else if b = 0x0E && k.shifts then
    { state := { st with isShifted := true }, chars := [], size := 1 }
  else if b = 0x0A then char { st with isShifted := false } c 1
  else if b < 0x20 then char st c 1
  else if 0x80 ≤ b then flaw st 1
  else takeChar st b rest

/-- The most octets of an unfinished sequence that are kept until the end. -/
def mostUnfinished : Nat := 8

/-- Reads octets; there is no reading if they end with a sequence that is too long to be kept. -/
def read? (k : Scheme) (octets : List UInt8) : Option (List Char) :=
  if mostUnfinished < (stateAtEnd (step k) 0 {} octets).unfinished then none
  else some (readSteps (step k) (fun _ => []) 0 {} octets)

end Switching

/-! ## Tildes -/

namespace Tilde

/-- A step of a reader that switches to pairs and back; the state tells whether pairs are read. -/
def step (pairs : Bool) (b : UInt8) (rest : List UInt8) : Taken Bool :=
  let c := Char.ofNat b.toNat
  let flaw (size : Nat) : Taken Bool := { state := pairs, chars := [replacement], size }
  if b = 0x7E then
    match rest.map fun n => Char.ofNat n.toNat with
    | [] => flaw 1
    | c₂ :: _ =>
      if pairs then
        if c₂ = '\x7d' then { state := false, chars := [], size := 2 } else flaw 1
      else if c₂ = '~' then { state := false, chars := ['~'], size := 2 }
      else if c₂ = '\x7b' then { state := true, chars := [], size := 2 }
      else if c₂ = '\n' then { state := false, chars := [], size := 2 }
      else flaw 1
  else if 0x80 ≤ b then flaw 1
  else if ! pairs then { state := false, chars := [c], size := 1 }
  else
    match rest with
    | [] => flaw 1
    | b₂ :: _ =>
      match gridChar? gb2312 (b.toNat - 0x20) (b₂.toNat - 0x20) with
      | some c => { state := true, chars := [c], size := 2 }
      | none => flaw 1

/-- Reads octets. -/
def read (octets : List UInt8) : List Char := readSteps step (fun _ => []) 0 false octets

end Tilde

/-! ## UTF-7 -/

namespace Utf7

/-- Where a reader is inside a section of digits for six bits each: the bits that are left over,
their value, and the first half of a pair. -/
structure Section where
  bits : Nat := 0
  value : Nat := 0
  high : Option Nat := none
  deriving DecidableEq, Repr

/-- The value of a digit. -/
def digit? (b : UInt8) : Option Nat :=
  let n := b.toNat
  if 0x41 ≤ n && n ≤ 0x5A then some (n - 0x41)
  else if 0x61 ≤ n && n ≤ 0x7A then some (n - 0x61 + 26)
  else if 0x30 ≤ n && n ≤ 0x39 then some (n - 0x30 + 52)
  else if n = 0x2B then some 62
  else if n = 0x2F then some 63
  else none

/-- The first half of a pair that stands alone. -/
def alone (s : Section) : List Char := (s.high.map ofCodePoint).toList

/-- Takes a code unit. -/
def takeUnit (s : Section) (unit : Nat) : Section × List Char :=
  match s.high with
  | some high =>
    if isLow unit then ({ s with high := none }, [ofCodePoint (joinPair high unit)])
    else if isHigh unit then ({ s with high := some unit }, alone s)
    else ({ s with high := none }, alone s ++ [ofCodePoint unit])
  | none =>
    if isHigh unit then ({ s with high := some unit }, []) else (s, [ofCodePoint unit])

/-- Takes a digit. -/
def takeDigit (s : Section) (d : Nat) : Section × List Char :=
  let value := s.value * 64 + d
  let bits := s.bits + 6
  if bits < 16 then ({ s with bits, value }, [])
  else
    let bits := bits - 16
    let weight := Nat.pow 2 bits
    takeUnit { s with bits, value := value % weight } (value / weight)

/-- Are the bits that are left over no more than what fills up the last digit? -/
def isComplete (s : Section) : Bool := s.bits < 6 && (s.bits = 0 || s.value = 0)

/-- A step outside of sections. -/
def stepOutside (b : UInt8) (rest : List UInt8) : Taken (Option Section) :=
  if b = 0x2B then
    match rest with
    | [] => { state := some {}, chars := [], size := 1 }
    | b₂ :: _ =>
      if b₂ = 0x2D then { state := none, chars := ['+'], size := 2 }
      else if (digit? b₂).isSome then { state := some {}, chars := [], size := 1 }
      else { state := none, chars := [replacement], size := 2 }
  else if b < 0x80 then { state := none, chars := [Char.ofNat b.toNat], size := 1 }
  else { state := none, chars := [replacement], size := 1 }

/-- A step of a reader. -/
def step (st : Option Section) (b : UInt8) (rest : List UInt8) : Taken (Option Section) :=
  match st with
  | none => stepOutside b rest
  | some s =>
    match digit? b with
    | some d =>
      let (s, chars) := takeDigit s d
      { state := some s, chars, size := 1 }
    | none =>
      if ! isComplete s then { state := none, chars := [replacement], size := 1 }
      else
        let before := if b < 0x80 then alone s else []
        if b = 0x2D then { state := none, chars := before, size := 1 }
        else
          let taken := stepOutside b rest
          { taken with chars := before ++ taken.chars }

/-- What is read for the end: a flaw for a section that cannot end there. -/
def ended : Option Section → List Char
  | none => []
  | some s => if s.high.isSome || ! isComplete s then [replacement] else []

/-- Reads octets. -/
def read (octets : List UInt8) : List Char := readSteps step ended 0 none octets

end Utf7

end InlineReview.Text
