import InlineReview.Text.Search
import InlineReview.Web.DomainName
import InlineReview.Web.Percent

/-!
# Hosts

A host is a domain name, a number of 32 bits or a number of 128 bits.  A name whose last label is
numeric must be a number of 32 bits in one to four parts, each decimal, octal or hexadecimal; it
is written in four decimal parts.  A number of 128 bits is written in brackets as eight groups of
which the longest run of zeros is left out.
-/

namespace InlineReview.Web

open Text

/-! ## Numbers of 32 bits -/

/-- Digits in a base, at least one. -/
def digitsIn? (base : Nat) (s : List Char) : Option Nat :=
  s.foldl (fun acc c => do
    let n ← acc
    let d ← hexValue? c
    if d < base then some (n * base + d) else none) (some 0)

/-- A part of a number of 32 bits: the base is told by its first characters. -/
def partValue? (s : List Char) : Option Nat :=
  match s with
  | [] => none
  | '0' :: 'x' :: r => digitsIn? 16 r
  | '0' :: 'X' :: r => digitsIn? 16 r
  | '0' :: c :: r => digitsIn? 8 (c :: r)
  | s => digitsIn? 10 s

/-- The labels of a name, without the empty one after a dot at the end. -/
def labels (name : List Char) : List (List Char) :=
  let ls := pieces '.' name
  if 1 < ls.length && ls.getLast? = some [] then ls.dropLast else ls

/-- Does the last label of a name make it a number? -/
def endsInNumber (name : List Char) : Bool :=
  match (labels name).getLast? with
  | some l => (! l.isEmpty && l.all isAsciiDigit) || (partValue? l).isSome
  | none => false

/-- The number of 32 bits that a name is. -/
def number32? (name : List Char) : Option Nat := do
  let parts ← (labels name).mapM partValue?
  let last ← parts.getLast?
  let front := parts.dropLast
  if 4 < parts.length || front.any (255 < ·) || Nat.pow 256 (4 - front.length) ≤ last then none
  else
    let high := front.foldl (fun n p => n * 256 + p) 0
    some (high * Nat.pow 256 (4 - front.length) + last)

/-- A number of 32 bits in four decimal parts. -/
def number32Text (n : Nat) : List Char :=
  joinWith '.' ([24, 16, 8, 0].map fun shift => Nat.toDigits 10 (n / Nat.pow 2 shift % 256))

/-! ## Numbers of 128 bits -/

/-- A group of one to four hexadecimal digits. -/
def groupValue? (s : List Char) : Option Nat :=
  if s.isEmpty || 4 < s.length then none else digitsIn? 16 s

/-- A decimal part without a leading zero. -/
def octetValue? (s : List Char) : Option Nat :=
  if s.isEmpty || 3 < s.length || (1 < s.length && s.head? = some '0') then none
  else (digitsIn? 10 s).filter (· < 256)

/-- The groups of a text between colons; the last piece may be four decimal parts. -/
def groups? : List (List Char) → Option (List Nat)
  | [] => some []
  | [last] =>
    if last.contains '.' then do
      match ← (pieces '.' last).mapM octetValue? with
      | [a, b, c, d] => some [a * 256 + b, c * 256 + d]
      | _ => none
    else (groupValue? last).map fun n => [n]
  | piece :: rest => do
    let n ← groupValue? piece
    let ns ← groups? rest
    pure (n :: ns)

/-- The groups on one side of the gap, none for an empty side. -/
def sideGroups? (s : List Char) : Option (List Nat) :=
  if s.isEmpty then some [] else groups? (pieces ':' s)

/-- The eight groups of a number of 128 bits. -/
def number128? (s : List Char) : Option (List Nat) :=
  match breakOn? [':', ':'] s with
  | none => do
    let ns ← groups? (pieces ':' s)
    if ns.length = 8 then some ns else none
  | some (front, back) => do
    if front.contains '.' then none
    let front ← sideGroups? front
    let back ← sideGroups? back
    if 7 < front.length + back.length then none
    else some (front ++ List.replicate (8 - front.length - back.length) 0 ++ back)

/-- How many groups are zero at the front. -/
def zeroRun (ns : List Nat) : Nat := (ns.takeWhile (· == 0)).length

/-- The first of the longest runs of at least two zero groups: where it starts and its length. -/
def longestZeroRun (ns : List Nat) : Option (Nat × Nat) :=
  (List.range ns.length).foldl (fun best i =>
    let run := zeroRun (ns.drop i)
    match best with
    | none => if 2 ≤ run then some (i, run) else none
    | some (_, length) => if length < run then some (i, run) else best) none

/-- Groups with colons between them. -/
def groupsText (ns : List Nat) : List Char := joinWith ':' (ns.map (Nat.toDigits 16))

/-- A number of 128 bits in brackets. -/
def number128Text (ns : List Nat) : List Char :=
  let body := match longestZeroRun ns with
    | none => groupsText ns
    | some (i, run) => groupsText (ns.take i) ++ [':', ':'] ++ groupsText (ns.drop (i + run))
  '[' :: body ++ [']']

/-! ## The parts of an authority -/

/-- The part before the last `@`, if there is one, and the part after it. -/
def splitUser (authority : List Char) : Option (List Char) × List Char :=
  let back := authority.reverse
  let rest := (back.takeWhile (· != '@')).reverse
  match back.dropWhile (· != '@') with
  | [] => (none, rest)
  | _ :: user => (some user.reverse, rest)

/-! ## Hosts -/

/-- The characters that no domain name holds. -/
def forbiddenInName : List Char :=
  [' ', '#', '/', ':', '<', '>', '?', '@', '[', '\x5c', ']', '^', '|', '%']

/-- May a domain name hold this character? -/
def allowedInName (c : Char) : Bool :=
  0x20 < c.toNat && c.toNat != 0x7F && ! forbiddenInName.contains c

/-- The written form of a host: names are in small letters and in ASCII. -/
def hostText? (s : List Char) : Option (List Char) :=
  match s with
  | '[' :: r =>
    if r.getLast? = some ']' then (number128? r.dropLast).map number128Text else none
  | _ =>
    match asciiName? (Utf8.decodeReplacing (unescaped 0 s)) with
    | none => none
    | some name =>
      if name.isEmpty || ! name.all allowedInName then none
      else if endsInNumber name then (number32? name).map number32Text
      else some name

end InlineReview.Web
