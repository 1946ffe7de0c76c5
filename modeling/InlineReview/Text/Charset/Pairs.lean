import InlineReview.Text.Charset.Chinese
import InlineReview.Text.Charset.HongKong
import InlineReview.Text.Charset.Japanese
import InlineReview.Text.Charset.JapanesePlanes
import InlineReview.Text.Charset.Korean
import InlineReview.Text.Charset.Taiwanese
import InlineReview.Text.Decoding
import InlineReview.Unicode.Spans

/-!
# Characters in pairs of octets

East Asian character sets write ASCII in single octets and most other characters in pairs whose
first octet is above it.  An octet that begins no pair is a flaw on its own, and so is what is too
short at the end.
-/

namespace InlineReview.Text

open Unicode

/-- The character sets with pairs of octets. -/
inductive PairSet where
  | shiftJis
  | windowsJapanese
  | eucJp
  | shiftJisX0213 (revised : Bool)
  | eucJisX0213 (revised : Bool)
  | gb2312
  | gbk
  | gb18030
  | big5
  | windowsTaiwanese
  | hongKong
  | eucKr
  | windowsKorean
  | combinedKorean
  deriving DecidableEq, Repr

/-! ## Tables -/

/-- The character at a place in a row, if there is one. -/
def charAt? (row : String) (column : Nat) : Option Char :=
  (row.toList[column]?).filter (· != '\uFFFD')

/-- The character in rows of 94, which are counted from one, as the places in a row are. -/
def gridChar? (rows : List String) (row column : Nat) : Option Char :=
  if row = 0 || column = 0 then none
  else (rows[row - 1]?).bind fun r => charAt? r (column - 1)

/-- The character in rows of 94 for octets above 0xA0. -/
def highChar? (rows : List String) (a b : Nat) : Option Char := gridChar? rows (a - 0xA0) (b - 0xA0)

/-- The image of a pair in rows of spans. -/
def pairImage? (rows : List String) (a b : Nat) : Option Char :=
  ((mapSpansOf rows).find? (·.span.holds (a * 256 + b))).bind fun m =>
    (m.imageOf (a * 256 + b)).head?

/-- The character at a place in runs. -/
def runChar? (runs : List ((Nat × Nat) × String)) (row column : Nat) : Option Char :=
  runs.findSome? fun ((r, c), chars) =>
    if r = row && c ≤ column then chars.toList[column - c]? else none

/-- The code point at a place among those from `first` on that are not taken; the taken ones are
in order. -/
def leftOut (first : Nat) (taken : List Nat) (place : Nat) : Nat :=
  taken.foldl (fun n t => if t ≤ n then n + 1 else n) (first + place)

/-! ## Japanese -/

/-- The row and the column of a pair that keeps clear of the single octets for syllables. -/
def shiftedPlace? (a b : Nat) : Option (Nat × Nat) :=
  let isFirst := (0x81 ≤ a && a ≤ 0x9F) || (0xE0 ≤ a && a ≤ 0xFC)
  let isSecond := (0x40 ≤ b && b ≤ 0x7E) || (0x80 ≤ b && b ≤ 0xFC)
  if ! isFirst || ! isSecond then none
  else
    let row := if a < 0xA0 then a - 0x81 else a - 0xC1
    let column := if b < 0x7F then b - 0x40 else b - 0x41
    some (2 * row + column / 94 + 1, column % 94 + 1)

/-- The first row of the private characters of Windows, and the first row after them. -/
def privateRows : Nat × Nat := (95, 115)

/-- The character of a row and a column as Windows has them. -/
def windowsJapaneseChar? (row column : Nat) : Option Char :=
  match windowsJapaneseSigns.lookup (row, column) with
  | some n => some (Char.ofNat n)
  | none =>
    if privateRows.1 ≤ row && row < privateRows.2 then
      some (Char.ofNat (0xE000 + (row - privateRows.1) * 94 + (column - 1)))
    else
      match windowsJapaneseRows.lookup row with
      | some r => charAt? r (column - 1)
      | none => gridChar? jisX0208 row column

/-- The single octets above ASCII that are syllables. -/
def syllableOctet? (b : Nat) : Option Char :=
  if 0xA1 ≤ b && b ≤ 0xDF then some (Char.ofNat (0xFF61 + (b - 0xA1))) else none

/-- The character of the first plane, before pairs are looked for. -/
def firstPlaneChar? (revised : Bool) (row column : Nat) : Option Char :=
  if ! revised && jisX0213Added.contains (row, column) then none
  else (gridChar? jisX0208 row column).or (runChar? jisX0213First row column)

/-- The characters of the first plane. -/
def firstPlane? (revised : Bool) (row column : Nat) : Option (List Char) :=
  match jisX0213Pairs.lookup (row, column) with
  | some (c, d) => some [c, d]
  | none => (firstPlaneChar? revised row column).map ([·])

/-- The character of the second plane. -/
def secondPlaneChar? (revised : Bool) (row column : Nat) : Option Char :=
  if ! revised && jisX0213Changed.1 = (row, column) then some jisX0213Changed.2
  else runChar? jisX0213Second row column

/-- The rows of the second plane that come after the 94 rows of the first one. -/
def rowsAfterFirst : List Nat :=
  [1, 8, 3, 4, 5, 12, 13, 14, 15, 78, 79, 80, 81, 82, 83, 84, 85, 86, 87, 88, 89, 90, 91, 92, 93,
    94]

/-- The place of the tilde in the first plane. -/
def tildePlace : Nat × Nat := (2, 18)

/-- The character of a row and a column of both planes, one after the other.  Two signs are those
of ASCII, whose octets are taken by others. -/
def shiftedPlaneChar? (revised : Bool) (row column : Nat) : Option Char :=
  if 94 < row then (rowsAfterFirst[row - 95]?).bind (secondPlaneChar? revised · column)
  else if (row, column) = (1, 32) then some '\\'
  else if (row, column) = tildePlace then some '~'
  else firstPlaneChar? revised row column

/-! ## Chinese -/

/-- The number of a pair among those that surround the first set: its first octet comes before the
first set, or its second one does. -/
def surroundingPlace? (a b : Nat) : Option Nat :=
  let column := if b < 0x7F then b - 0x40 else b - 0x41
  if b < 0x40 || b = 0x7F || 0xFE < b || a < 0x81 || 0xFE < a then none
  else if a ≤ 0xA0 then some ((a - 0x81) * 190 + column)
  else if 0xAA ≤ a && b ≤ 0xA0 then some (32 * 190 + (a - 0xAA) * 96 + column)
  else none

/-- The ideographs from the first one on that a set of ideographs was chosen from, and how many
were not chosen. -/
def ideographs : Nat × Nat := (0x4E00, 14139)

/-- The ideographs of the first set, in order. -/
def chosenIdeographs : List Nat :=
  ((gb2312.drop 15).flatMap fun row => row.toList.map Char.toNat).mergeSort

/-- The character of a pair in the second set. -/
def gbkChar? (a b : Nat) : Option Char :=
  match pairImage? gbkPairs a b with
  | some c => some c
  | none =>
    match highChar? gb2312 a b with
    | some c => some c
    | none =>
      match surroundingPlace? a b with
      | some n =>
        if n < ideographs.2 then some (Char.ofNat (leftOut ideographs.1 chosenIdeographs n))
        else none
      | none => none

/-- The character of a group of four octets. -/
def groupChar? (a b c d : Nat) : Option Char :=
  if a < 0x81 || 0xFE < a || c < 0x81 || 0xFE < c || d < 0x30 || 0x39 < d then none
  else
    let place (first : Nat) :=
      (((a - first) * 10 + (b - 0x30)) * 126 + (c - 0x81)) * 10 + (d - 0x30)
    if a < 0x90 then
      ((mapSpansOf gb18030Groups).find? (·.span.holds (place 0x81))).bind fun m =>
        (m.imageOf (place 0x81)).head?
    else if 0x10000 + place 0x90 ≤ 0x10FFFF then some (Char.ofNat (0x10000 + place 0x90))
    else none

/-- The character of a pair in rows of 63 and 94 second octets. -/
def big5Char? (a b : Nat) : Option Char :=
  if a < 0xA1 || 0xFE < a then none
  else if 0x40 ≤ b && b ≤ 0x7E then (big5[2 * (a - 0xA1)]?).bind (charAt? · (b - 0x40))
  else if 0xA1 ≤ b && b ≤ 0xFE then (big5[2 * (a - 0xA1) + 1]?).bind (charAt? · (b - 0xA1))
  else none

/-! ## Korean -/

/-- The place of a second octet among those that Windows uses: letters, and what is above ASCII. -/
def windowsColumn? (b : Nat) : Option Nat :=
  if 0x41 ≤ b && b ≤ 0x5A then some (b - 0x41)
  else if 0x61 ≤ b && b ≤ 0x7A then some (b - 0x61 + 26)
  else if 0x81 ≤ b && b ≤ 0xFE then some (b - 0x81 + 52)
  else none

/-- The number of a pair among those that surround the Korean set. -/
def windowsPlace? (a b : Nat) : Option Nat :=
  (windowsColumn? b).bind fun column =>
    if 0x81 ≤ a && a ≤ 0xA0 then some ((a - 0x81) * 178 + column)
    else if 0xA1 ≤ a && b ≤ 0xA0 then some (32 * 178 + (a - 0xA1) * 84 + column)
    else none

/-- The first syllable, how many there are, and how many the Korean set leaves out. -/
def syllables : Nat × Nat := (0xAC00, 8822)

/-- The syllables of the Korean set, in order. -/
def chosenSyllables : List Nat :=
  ((ksX1001.drop 15).take 25).flatMap fun row => row.toList.map Char.toNat

/-- The character of a pair as Windows has them. -/
def windowsKoreanChar? (a b : Nat) : Option Char :=
  match highChar? ksX1001 a b with
  | some c => some c
  | none =>
    (windowsPlace? a b).bind fun n =>
      if n < syllables.2 then some (Char.ofNat (leftOut syllables.1 chosenSyllables n)) else none

/-- The numbers of the consonants that begin a syllable among the single letters of the set; thirty
stands for none. -/
def firstConsonants : List Nat :=
  [0, 1, 30, 2, 30, 30, 3, 4, 5, 30, 30, 30, 30, 30, 30, 30, 6, 7, 8, 30, 9, 10, 11, 12, 13, 14,
    15, 16, 17, 18]

/-- The numbers of the consonants that end a syllable among the single letters of the set; thirty
stands for none. -/
def lastConsonants : List Nat :=
  [1, 2, 3, 4, 5, 6, 7, 30, 8, 9, 10, 11, 12, 13, 14, 15, 16, 17, 30, 18, 19, 20, 21, 22, 30, 23,
    24, 25, 26, 27]

/-- The octet before each letter of a syllable that is written out, and the octet for no letter. -/
def letterOctets : Nat × Nat := (0xA4, 0xD4)

/-- The number of a consonant in a table. -/
def consonant? (table : List Nat) (b : Nat) : Option Nat :=
  if b < 0xA1 then none else (table[b - 0xA1]?).filter (· < 30)

/-- The syllable of a first consonant, a vowel and a last consonant. -/
def writtenOut? (first vowel last : Nat) : Option Char := do
  let i ← consonant? firstConsonants first
  let j ← if 0xBF ≤ vowel && vowel ≤ 0xD3 then some (vowel - 0xBF) else none
  let k ← if last = letterOctets.2 then some 0 else consonant? lastConsonants last
  pure (Char.ofNat (syllables.1 + i * 588 + j * 28 + k))

/-- The piece of a syllable that is written out, after its first pair of octets. -/
def writtenOutPiece (rest : List UInt8) : Piece :=
  match rest.map UInt8.toNat with
  | m₁ :: first :: m₂ :: vowel :: m₃ :: last :: _ =>
    if m₁ = letterOctets.1 && m₂ = letterOctets.1 && m₃ = letterOctets.1 then
      match writtenOut? first vowel last with
      | some c => .char c 8
      | none => .flawed .invalidStart 1
    else .flawed .invalidStart 1
  | few => .flawed .unexpectedEnd (few.length + 2)

/-- The number of a vowel that is given in five bits. -/
def vowel? (n : Nat) : Option Nat :=
  let k := 6 * (n / 8) + n % 8 - 3
  if n < 3 || n % 8 < 2 || 20 < k then none else some k

/-- The number of a last consonant that is given in five bits, zero for none. -/
def lastLetter? (n : Nat) : Option Nat :=
  if 1 ≤ n && n ≤ 17 then some (n - 1) else if 19 ≤ n && n ≤ 29 then some (n - 2) else none

/-- The first of the single letters. -/
def firstLetter : Nat := 0x3131

/-- The single letter of a consonant with a number in a table. -/
def letterOf (table : List Nat) (k : Nat) : Char := Char.ofNat (firstLetter + table.idxOf k)

/-- The character of three letters in five bits each, of which some may be missing: a syllable, or
a single letter. -/
def combined? (first vowel last : Nat) : Option Char := do
  let k ← lastLetter? last
  if first = 1 then
    if vowel = 2 then
      if k = 0 then pure (Char.ofNat 0x3000) else pure (letterOf lastConsonants k)
    else
      let j ← vowel? vowel
      if k = 0 then pure (Char.ofNat (firstLetter + 30 + j)) else none
  else
    let i ← if 2 ≤ first && first ≤ 20 then some (first - 2) else none
    if vowel = 2 then
      if k = 0 then pure (letterOf firstConsonants i) else none
    else
      let j ← vowel? vowel
      pure (Char.ofNat (syllables.1 + i * 588 + j * 28 + k))

/-- The character of a pair that holds the letters of a syllable, or of one of the pairs after
them for the rest of the Korean set. -/
def combinedKoreanChar? (a b : Nat) : Option Char :=
  if a < 0xD8 then combined? (a / 4 % 32) (a % 4 * 8 + b / 32) (b % 32)
  else if a = 0xD8 || a = 0xDF || 0xF9 < a || b < 0x31 || (0x80 ≤ b && b < 0x91)
      || b % 0x80 = 0x7F || (a = 0xDA && 0xA1 ≤ b && b ≤ 0xD3) then none
  else
    let row := if a < 0xE0 then 2 * (a - 0xD9) + 1 else 2 * (a - 0xE0) + 42
    let column := if b < 0x91 then b - 0x31 else b - 0x43
    gridChar? ksX1001 (row + column / 94) (column % 94 + 1)

/-! ## Pieces -/

namespace PairSet

/-- The character of a pair of octets. -/
def pairChar? : PairSet → (a b : Nat) → Option Char
  | .shiftJis, a, b => (shiftedPlace? a b).bind fun (row, column) => gridChar? jisX0208 row column
  | .windowsJapanese, a, b =>
    (shiftedPlace? a b).bind fun (row, column) => windowsJapaneseChar? row column
  | .eucJp, a, b => if a = 0x8E then syllableOctet? b else highChar? jisX0208 a b
  | .shiftJisX0213 revised, a, b =>
    (shiftedPlace? a b).bind fun (row, column) => shiftedPlaneChar? revised row column
  | .eucJisX0213 revised, a, b =>
    if a = 0x8E then syllableOctet? b else firstPlaneChar? revised (a - 0xA0) (b - 0xA0)
  | .gb2312, a, b => highChar? InlineReview.Text.gb2312 a b
  | .gbk, a, b => gbkChar? a b
  | .gb18030, a, b => (pairImage? gb18030Pairs a b).or (gbkChar? a b)
  | .big5, a, b => big5Char? a b
  | .windowsTaiwanese, a, b => (pairImage? windowsTaiwanesePairs a b).or (big5Char? a b)
  | .hongKong, a, b =>
    if hongKongMissing.contains (a, b) then none
    else (runChar? hongKongRuns a b).or (big5Char? a b)
  | .eucKr, a, b => highChar? ksX1001 a b
  | .windowsKorean, a, b => windowsKoreanChar? a b
  | .combinedKorean, a, b => combinedKoreanChar? a b

/-- The two characters of a pair of octets, if it has two. -/
def twoChars? : PairSet → (a b : Nat) → Option (Char × Char)
  | .shiftJisX0213 _, a, b => (shiftedPlace? a b).bind fun place => jisX0213Pairs.lookup place
  | .eucJisX0213 _, a, b => jisX0213Pairs.lookup (a - 0xA0, b - 0xA0)
  | .hongKong, a, b => hongKongPairs.lookup (a, b)
  | _, _, _ => none

/-- The row and the column of a pair of octets in the first plane without its revision. -/
def unrevisedPlace? : PairSet → (a b : Nat) → Option (Nat × Nat)
  | .shiftJisX0213 false, a, b => shiftedPlace? a b
  | .eucJisX0213 false, a, b => some (a - 0xA0, b - 0xA0)
  | _, _, _ => none

/-- How many octets are flawed where a pair of octets holds no character: both if a revision has a
character for them. -/
def flawSize (s : PairSet) (a b : Nat) : Nat :=
  if (s.unrevisedPlace? a b).any jisX0213Added.contains then 2 else 1

/-- The character of a pair of octets after a third one before them. -/
def thirdChar? : PairSet → (a b : Nat) → Option Char
  | .eucJp, a, b => highChar? jisX0212 a b
  | .eucJisX0213 revised, a, b =>
    (secondPlaneChar? revised (a - 0xA0) (b - 0xA0)).or (highChar? jisX0212 a b)
  | _, _, _ => none

/-- Has the set groups of three octets after this one? -/
def beginsThree : PairSet → Nat → Bool
  | .eucJp, a | .eucJisX0213 _, a => a == 0x8F
  | _, _ => false

/-- The character of a single octet of ASCII. -/
def low : PairSet → Nat → Char
  | .shiftJisX0213 _, b =>
    if b = 0x5C then Char.ofNat 0xA5 else if b = 0x7E then Char.ofNat 0x203E else Char.ofNat b
  | _, b => Char.ofNat b

/-- The character of a single octet above ASCII. -/
def single? : PairSet → Nat → Option Char
  | .shiftJis, b | .shiftJisX0213 _, b => syllableOctet? b
  | .windowsJapanese, b =>
    if b = 0x80 then some (Char.ofNat b)
    else if b = 0xA0 then some (Char.ofNat 0xF8F0)
    else if 0xFD ≤ b then some (Char.ofNat (0xF8F1 + (b - 0xFD)))
    else syllableOctet? b
  | _, _ => none

/-- The piece of two octets or of one of them. -/
def pairPiece (s : PairSet) (a b : Nat) : Piece :=
  match s.twoChars? a b with
  | some (c, d) => .pair c d 2
  | none =>
    match s.pairChar? a b with
    | some c => .char c 2
    | none => .flawed .invalidStart (s.flawSize a b)

/-- The first piece of octets that start with one above ASCII. -/
def highPiece (s : PairSet) (b : UInt8) (rest : List UInt8) : Piece :=
  match rest with
  | [] => .flawed .unexpectedEnd 1
  | b₂ :: more =>
    let a := b.toNat
    let n := b₂.toNat
    if s.beginsThree a then
      match more with
      | [] => .flawed .unexpectedEnd 2
      | b₃ :: _ =>
        match s.thirdChar? n b₃.toNat with
        | some c => .char c 3
        | none => .flawed .invalidStart 1
    else if s = .gb18030 && 0x30 ≤ n && n ≤ 0x39 then
      match more with
      | b₃ :: b₄ :: _ =>
        match groupChar? a n b₃.toNat b₄.toNat with
        | some c => .char c 4
        | none => .flawed .invalidStart 1
      | few => .flawed .unexpectedEnd (few.length + 2)
    else if s = .eucKr && a = letterOctets.1 && n = letterOctets.2 then writtenOutPiece more
    else s.pairPiece a n

/-- The first piece of octets. -/
def firstPiece (s : PairSet) (b : UInt8) (rest : List UInt8) : Piece :=
  if b < 0x80 then .char (s.low b.toNat) 1
  else
    match s.single? b.toNat with
    | some c => .char c 1
    | none => s.highPiece b rest

end PairSet

end InlineReview.Text
