import InlineReview.Text.Charset.Steps
import InlineReview.Text.Decoding
import InlineReview.Text.Surrogate

/-!
# Texts with escapes

A text may be written with one octet for a character of Latin-1 and escapes with a backslash for
others.  All kinds of escapes are those of string literals; the plain kinds are `\u` and `\U`
alone.
-/

namespace InlineReview.Text.Escapes

/-- Which escapes there are. -/
inductive Kinds where
  | plain
  | all
  deriving DecidableEq, Repr

/-- A step that reads a character. -/
def char (c : Char) (size : Nat) : Taken Unit := { state := (), chars := [c], size }

/-- A step that reads a flaw. -/
def flaw (size : Nat) : Taken Unit := { state := (), chars := [replacement], size }

/-- Reads `count` hexadecimal digits after a letter for the value of a character. -/
def takeValue (count : Nat) (digits : List Char) : Taken Unit :=
  let held := (digits.take count).takeWhile fun c => (hexValue? c).isSome
  let value := held.foldl (fun n c => n * 16 + (hexValue? c).getD 0) 0
  if held.length < count || 0x10FFFF < value then flaw (2 + held.length)
  else char (ofCodePoint value) (2 + count)

/-- Reads up to three octal digits. -/
def takeOctal (digits : List Char) : Taken Unit :=
  let held := (digits.take 3).takeWhile fun c => '0' ≤ c && c ≤ '7'
  let value := held.foldl (fun n c => n * 8 + (c.toNat - 48)) 0
  char (Char.ofNat value) (1 + held.length)

/-- Reads a name in braces.  No names are known. -/
def takeName : List Char → Taken Unit
  | '\x7b' :: rest =>
    let name := rest.takeWhile (· != '\x7d')
    if name.length = rest.length || name.isEmpty then flaw (3 + name.length)
    else flaw (4 + name.length)
  | _ => flaw 2

/-- The character that a letter or a sign stands for after a backslash. -/
def named? : Char → Option Char
  | '\\' => some '\\'
  | '\x27' => some '\x27'
  | '"' => some '"'
  | 'a' => some '\x07'
  | 'b' => some '\x08'
  | 't' => some '\t'
  | 'n' => some '\n'
  | 'v' => some '\x0b'
  | 'f' => some '\x0c'
  | 'r' => some '\r'
  | _ => none

/-- Reads an escape of any kind, after its backslash. -/
def takeAny (c : Char) (rest : List Char) : Taken Unit :=
  if c = '\n' then { state := (), chars := [], size := 2 }
  else if c = 'x' then takeValue 2 rest
  else if c = 'u' then takeValue 4 rest
  else if c = 'U' then takeValue 8 rest
  else if c = 'N' then takeName rest
  else if '0' ≤ c && c ≤ '7' then takeOctal (c :: rest)
  else
    match named? c with
    | some d => char d 2
    | none => { state := (), chars := ['\\', c], size := 2 }

/-- Reads an escape of a plain kind, after its backslash. -/
def takePlain (c : Char) (rest : List Char) : Taken Unit :=
  if c = 'u' then takeValue 4 rest
  else if c = 'U' then takeValue 8 rest
  else { state := (), chars := ['\\', c], size := 2 }

/-- A step of a reader. -/
def step (kinds : Kinds) (_ : Unit) (b : UInt8) (rest : List UInt8) : Taken Unit :=
  if b != 0x5C then char (Char.ofNat b.toNat) 1
  else
    match rest.map fun n => Char.ofNat n.toNat with
    | [] => if kinds = .all then flaw 1 else char '\\' 1
    | c :: r => if kinds = .all then takeAny c r else takePlain c r

/-- Reads octets. -/
def read (kinds : Kinds) (octets : List UInt8) : List Char :=
  readSteps (step kinds) (fun _ => []) 0 () octets

end InlineReview.Text.Escapes
