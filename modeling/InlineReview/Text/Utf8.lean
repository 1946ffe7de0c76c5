import InlineReview.Text.Decoding
import InlineReview.Text.Surrogate

/-!
# UTF-8

Reading octets as UTF-8 and writing characters as UTF-8.  A run of octets that begins no
character ends before the first octet that cannot continue it.
-/

namespace InlineReview.Text.Utf8

/-- Does an octet lie in this range? -/
def within (lo hi b : UInt8) : Bool := lo ≤ b && b ≤ hi

/-- The range of the second octet after a first one: it excludes overlong forms, surrogates and
values above the last code point. -/
def secondRange (b : UInt8) : UInt8 × UInt8 :=
  if b = 0xE0 then (0xA0, 0xBF)
  else if b = 0xED then (0x80, 0x9F)
  else if b = 0xF0 then (0x90, 0xBF)
  else if b = 0xF4 then (0x80, 0x8F)
  else (0x80, 0xBF)

/-- May `b` come second after `first`? -/
def isSecond (first b : UInt8) : Bool :=
  let (lo, hi) := secondRange first
  within lo hi b

/-- May `b` come third or fourth? -/
def isTail (b : UInt8) : Bool := within 0x80 0xBF b

/-- The six low bits of a continuation octet. -/
def low6 (b : UInt8) : Nat := b.toNat % 64

/-- The first piece of octets that start with `b`.  A tolerant reader takes the three octets
that would encode half of a pair. -/
def firstPiece (tolerant : Bool) (b : UInt8) (rest : List UInt8) : Piece :=
  if b < 0x80 then .char (Char.ofNat b.toNat) 1
  else if within 0xC2 0xDF b then
    match rest with
    | [] => .flawed .unexpectedEnd 1
    | b₂ :: _ =>
      if isTail b₂ then .char (Char.ofNat (b.toNat % 32 * 64 + low6 b₂)) 2
      else .flawed .invalidContinuation 1
  else if within 0xE0 0xEF b then
    match rest with
    | [] => .flawed .unexpectedEnd 1
    | [b₂] => if isSecond b b₂ then .flawed .unexpectedEnd 2 else .flawed .invalidContinuation 1
    | b₂ :: b₃ :: _ =>
      if isSecond b b₂ then
        if isTail b₃ then
          .char (Char.ofNat (b.toNat % 16 * 4096 + low6 b₂ * 64 + low6 b₃)) 3
        else .flawed .invalidContinuation 2
      else if tolerant && b == 0xED && isTail b₂ && isTail b₃ then
        .char (ofCodePoint (0xD000 + low6 b₂ * 64 + low6 b₃)) 3
      else .flawed .invalidContinuation 1
  else if within 0xF0 0xF4 b then
    match rest with
    | [] => .flawed .unexpectedEnd 1
    | [b₂] => if isSecond b b₂ then .flawed .unexpectedEnd 2 else .flawed .invalidContinuation 1
    | [b₂, b₃] =>
      if isSecond b b₂ then
        if isTail b₃ then .flawed .unexpectedEnd 3 else .flawed .invalidContinuation 2
      else .flawed .invalidContinuation 1
    | b₂ :: b₃ :: b₄ :: _ =>
      if isSecond b b₂ then
        if isTail b₃ then
          if isTail b₄ then
            .char (Char.ofNat
              (b.toNat % 8 * 262144 + low6 b₂ * 4096 + low6 b₃ * 64 + low6 b₄)) 4
          else .flawed .invalidContinuation 3
        else .flawed .invalidContinuation 2
      else .flawed .invalidContinuation 1
  else .flawed .invalidStart 1

/-- The pieces of octets, of which the first `owed` belong to a piece already read. -/
def piecesFrom (tolerant : Bool) : (owed : Nat) → List UInt8 → List Piece
  | _, [] => []
  | k + 1, _ :: rest => piecesFrom tolerant k rest
  | 0, b :: rest =>
    let piece := firstPiece tolerant b rest
    piece :: piecesFrom tolerant (piece.size - 1) rest

/-- Reads octets, refusing the first flawed run. -/
def decode (octets : List UInt8) : Except DecodeFault (List Char) :=
  strictly "utf-8" 0 octets (piecesFrom false 0 octets)

/-- Reads octets like `decode`, but lets halves of pairs pass. -/
def decodeTolerant (octets : List UInt8) : Except DecodeFault (List Char) :=
  strictly "utf-8" 0 octets (piecesFrom true 0 octets)

/-- Reads octets with the replacement character for every flawed run. -/
def decodeReplacing (octets : List UInt8) : List Char :=
  replaced (piecesFrom false 0 octets)

/-- The octet that continues a character with six bits of its value. -/
def tailOctet (n : Nat) : UInt8 := UInt8.ofNat (0x80 + n % 64)

/-- The octets of one character. -/
def encodeChar (c : Char) : List UInt8 :=
  let n := codePoint c
  if n < 0x80 then [UInt8.ofNat n]
  else if n < 0x800 then [UInt8.ofNat (0xC0 + n / 64), tailOctet n]
  else if n < 0x10000 then
    [UInt8.ofNat (0xE0 + n / 4096), tailOctet (n / 64), tailOctet n]
  else
    [UInt8.ofNat (0xF0 + n / 262144), tailOctet (n / 4096), tailOctet (n / 64), tailOctet n]

/-- The octets of a text. -/
def encode (s : List Char) : List UInt8 := s.flatMap encodeChar

end InlineReview.Text.Utf8
