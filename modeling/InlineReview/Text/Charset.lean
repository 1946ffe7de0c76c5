import InlineReview.Text.Charset.Escapes
import InlineReview.Text.Charset.Names
import InlineReview.Text.Charset.Switching
import InlineReview.Text.Punycode
import InlineReview.Text.Utf8
import InlineReview.Text.Wide

/-!
# Named encodings

`Charset.named?` is the encoding of a name, and `Charset.read` reads octets in it, with the
replacement character for what the encoding does not hold.
-/

namespace InlineReview.Text

open Wide

/-- Why octets cannot be read at all in a named encoding. -/
inductive CharsetFault where
  | noMark (bits : Nat)
  | notText
  | notOctets
  | strictOnly
  | nothing
  | overfull
  | notAscii (octet : UInt8) (place : Nat)
  | mixedParts (numberedFirst : Bool)
  deriving DecidableEq, Repr

/-- The wording of a fault. -/
def CharsetFault.message : CharsetFault → String
  | .noMark bits => s!"UTF-{bits} stream does not start with BOM"
  | .notText => ""
  | .notOctets => "descriptor 'translate' for 'str' objects doesn't apply to a 'bytes' object"
  | .strictOnly => "Unsupported error handling replace"
  | .nothing => "undefined encoding"
  | .overfull => "pending buffer overflow"
  | .notAscii octet place =>
    s!"'ascii' codec can't decode byte 0x{String.ofList (hexDigits 2 octet.toNat)} in position " ++
      s!"{place}: ordinal not in range(128)"
  | .mixedParts true => "'<' not supported between instances of 'NoneType' and 'int'"
  | .mixedParts false => "'<' not supported between instances of 'int' and 'NoneType'"

/-- The encodings in which a body's text can be read. -/
inductive Charset where
  | utf7
  | utf8
  | utf8Marked
  | utf16 (order : Option Order)
  | utf32 (order : Option Order)
  | ascii
  | latin1
  | octets (rows : List String)
  | pairs (set : PairSet)
  | switching (scheme : Switching.Scheme)
  | tilde
  | punycode
  | escaped (kinds : Escapes.Kinds)
  | unreadable (why : CharsetFault)
  deriving DecidableEq, Repr

namespace Charset

/-- The Japanese encodings with escape sequences: each has the sets of the first. -/
def japaneseMembers : List Switching.Member := [.japanese, .oldJapanese, .roman]

/-- The encoding that is held under a name. -/
def held? (name : String) : Option Charset :=
  match name with
  | "utf_7" => some .utf7
  | "utf_8" => some .utf8
  | "utf_8_sig" => some .utf8Marked
  | "utf_16" => some (.utf16 none)
  | "utf_16_le" => some (.utf16 (some .littleFirst))
  | "utf_16_be" => some (.utf16 (some .bigFirst))
  | "utf_32" => some (.utf32 none)
  | "utf_32_le" => some (.utf32 (some .littleFirst))
  | "utf_32_be" => some (.utf32 (some .bigFirst))
  | "ascii" => some .ascii
  | "latin_1" => some .latin1
  | "shift_jis" => some (.pairs .shiftJis)
  | "cp932" => some (.pairs .windowsJapanese)
  | "euc_jp" => some (.pairs .eucJp)
  | "shift_jisx0213" => some (.pairs (.shiftJisX0213 false))
  | "shift_jis_2004" => some (.pairs (.shiftJisX0213 true))
  | "euc_jisx0213" => some (.pairs (.eucJisX0213 false))
  | "euc_jis_2004" => some (.pairs (.eucJisX0213 true))
  | "gb2312" => some (.pairs .gb2312)
  | "gbk" => some (.pairs .gbk)
  | "gb18030" => some (.pairs .gb18030)
  | "big5" => some (.pairs .big5)
  | "cp950" => some (.pairs .windowsTaiwanese)
  | "big5hkscs" => some (.pairs .hongKong)
  | "euc_kr" => some (.pairs .eucKr)
  | "cp949" => some (.pairs .windowsKorean)
  | "johab" => some (.pairs .combinedKorean)
  | "iso2022_jp" => some (.switching { members := japaneseMembers })
  | "iso2022_jp_1" => some (.switching { members := .rareJapanese :: japaneseMembers })
  | "iso2022_jp_2" => some (.switching {
      members := [.rareJapanese, .korean, .chinese, .latin, .greek] ++ japaneseMembers
      third := true })
  | "iso2022_jp_ext" => some (.switching {
      members := [.rareJapanese, .syllables] ++ japaneseMembers })
  | "iso2022_jp_3" => some (.switching { members := [.japanese, .firstPlane false, .secondPlane] })
  | "iso2022_jp_2004" => some (.switching {
      members := [.japanese, .firstPlane true, .secondPlane] })
  | "iso2022_kr" => some (.switching { members := [.korean], shifts := true, revisions := false })
  | "hz" => some .tilde
  | "punycode" => some .punycode
  | "unicode_escape" => some (.escaped .all)
  | "raw_unicode_escape" => some (.escaped .plain)
  | "base64_codec" | "bz2_codec" | "hex_codec" | "quopri_codec" | "uu_codec" | "zlib_codec" =>
    some (.unreadable .notText)
  | "rot_13" => some (.unreadable .notOctets)
  | "idna" => some (.unreadable .strictOnly)
  | "undefined" => some (.unreadable .nothing)
  | name => (octetSets.lookup name).map .octets

/-- The encoding of a name. -/
def named? (name : String) : Option Charset := held? (heldCharsetName name)

/-- Reads octets in units of two or four whose order is told by a mark. -/
def readMarked (bits : Nat) (bigMark littleMark : List UInt8)
    (replacing : Order → List UInt8 → List Char) (octets : List UInt8) :
    Except CharsetFault (List Char) :=
  if bigMark.isPrefixOf octets then .ok (replacing .bigFirst (octets.drop bigMark.length))
  else if littleMark.isPrefixOf octets then
    .ok (replacing .littleFirst (octets.drop littleMark.length))
  else if bigMark.length ≤ octets.length then .error (.noMark bits)
  else .ok (replacing .littleFirst octets)

/-- The first octet above ASCII, with its place. -/
def firstHigh? : (place : Nat) → List UInt8 → Option (UInt8 × Nat)
  | _, [] => none
  | place, b :: rest => if 0x80 ≤ b then some (b, place) else firstHigh? (place + 1) rest

/-- The character of an octet of ASCII. -/
def asciiChar (b : UInt8) : Char := if b < 0x80 then Char.ofNat b.toNat else replacement

/-- Reads octets in Punycode: flaws are replaced before the last hyphen only. -/
def readPunycode (octets : List UInt8) : Except CharsetFault (List Char) :=
  let behind := (octets.reverse.takeWhile (· != 0x2D)).reverse
  let front := octets.take (octets.length - behind.length - 1)
  match firstHigh? 0 behind with
  | some (octet, place) => .error (.notAscii octet place)
  | none =>
    .ok ((Punycode.decodeReadable (front.map fun b => (asciiChar b).toNat)
      (behind.map asciiChar)).map ofCodePoint)

/-- The mark that UTF-8 may begin with. -/
def utf8Mark : List UInt8 := [0xEF, 0xBB, 0xBF]

/-- Reads octets with the replacement character where the encoding has no character.  There is
nothing to be read in no octets. -/
def read (charset : Charset) (octets : List UInt8) : Except CharsetFault (List Char) :=
  if octets.isEmpty then .ok []
  else
    match charset with
    | .utf7 => .ok (Utf7.read octets)
    | .utf8 => .ok (Utf8.decodeReplacing octets)
    | .utf8Marked =>
      if octets.length < utf8Mark.length && octets.isPrefixOf utf8Mark then .ok []
      else if utf8Mark.isPrefixOf octets then
        .ok (Utf8.decodeReplacing (octets.drop utf8Mark.length))
      else .ok (Utf8.decodeReplacing octets)
    | .utf16 none => readMarked 16 [0xFE, 0xFF] [0xFF, 0xFE] replacing16 octets
    | .utf32 none =>
      readMarked 32 [0x00, 0x00, 0xFE, 0xFF] [0xFF, 0xFE, 0x00, 0x00] replacing32 octets
    | .utf16 (some order) => .ok (replacing16 order octets)
    | .utf32 (some order) => .ok (replacing32 order octets)
    | .ascii => .ok (octets.map asciiChar)
    | .latin1 => .ok (octets.map fun b => Char.ofNat b.toNat)
    | .octets rows =>
      let spans := Unicode.mapSpansOf rows
      .ok (octets.map fun b => (octetChar? spans b).getD replacement)
    | .pairs set => .ok (replaced (piecesFrom set.firstPiece 0 octets))
    | .switching scheme => (Switching.read? scheme octets).elim (.error .overfull) .ok
    | .tilde => .ok (Tilde.read octets)
    | .punycode => readPunycode octets
    | .escaped kinds => .ok (Escapes.read kinds octets)
    | .unreadable why => .error why

/-- The encoding for octets that have no mark though they may. -/
def unmarked : Charset → Charset
  | .utf16 none => .utf16 (some .littleFirst)
  | .utf32 none => .utf32 (some .littleFirst)
  | charset => charset

/-- Reads octets whose mark may be missing. -/
def readUnmarked (charset : Charset) (octets : List UInt8) : Except CharsetFault (List Char) :=
  match charset.read octets with
  | .error (.noMark _) => charset.unmarked.read octets
  | result => result

end Charset

end InlineReview.Text
