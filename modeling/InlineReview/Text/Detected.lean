import InlineReview.Text.Utf8
import InlineReview.Text.Wide

/-!
# Octets that show their encoding

The octets of a JSON document are in one of the encodings of Unicode: a byte order mark or the
places of zero octets among the first four tell which.
-/

namespace InlineReview.Text

open Wide

/-- Reads the octets of a JSON document in the encoding that their beginning shows. -/
def decodeDetected (octets : List UInt8) : Except DecodeFault (List Char) :=
  match octets with
  | 0x00 :: 0x00 :: 0xFE :: 0xFF :: rest => decode32 .bigFirst 4 rest
  | 0xFF :: 0xFE :: 0x00 :: 0x00 :: rest => decode32 .littleFirst 4 rest
  | 0xFE :: 0xFF :: rest => decode16 .bigFirst 2 rest
  | 0xFF :: 0xFE :: rest => decode16 .littleFirst 2 rest
  | 0xEF :: 0xBB :: 0xBF :: rest => Utf8.decodeTolerant rest
  | a :: b :: c :: d :: _ =>
    if a = 0 then if b = 0 then decode32 .bigFirst 0 octets else decode16 .bigFirst 0 octets
    else if b = 0 then
      if c = 0 && d = 0 then decode32 .littleFirst 0 octets else decode16 .littleFirst 0 octets
    else Utf8.decodeTolerant octets
  | [a, b] =>
    if a = 0 then decode16 .bigFirst 0 octets
    else if b = 0 then decode16 .littleFirst 0 octets
    else Utf8.decodeTolerant octets
  | _ => Utf8.decodeTolerant octets

end InlineReview.Text
