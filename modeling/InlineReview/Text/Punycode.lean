
/-!
# Punycode

A label with characters outside ASCII is written as its ASCII characters, a hyphen, and the places
and values of the others as a run of variable length integers in base 36.  `encode` writes a label
so and `decode?` reads it back.
-/

namespace InlineReview.Text.Punycode

/-- The digit of a value below 36. -/
def digit (n : Nat) : Char := Char.ofNat (if n < 26 then 97 + n else 22 + n)

/-- The threshold of a place in a variable length integer. -/
def threshold (bias k : Nat) : Nat :=
  if k ≤ bias then 1 else if bias + 26 ≤ k then 26 else k - bias

/-- Brings a delta down to the size of a single place. -/
def reduce : (fuel delta k : Nat) → Nat
  | 0, delta, k => k + 36 * delta / (delta + 38)
  | fuel + 1, delta, k =>
    if 455 < delta then reduce fuel (delta / 35) (k + 36) else k + 36 * delta / (delta + 38)

/-- The bias after a delta was written. -/
def adapt (delta count : Nat) (first : Bool) : Nat :=
  let delta := if first then delta / 700 else delta / 2
  reduce delta (delta + delta / count) 0

/-- A variable length integer. -/
def integer : (fuel n k bias : Nat) → List Char
  | 0, _, _, _ => []
  | fuel + 1, n, k, bias =>
    let t := threshold bias k
    if n < t then [digit n]
    else digit (t + (n - t) % (36 - t)) :: integer fuel ((n - t) / (36 - t)) (k + 36) bias

/-- What is carried along while the characters above ASCII are written. -/
structure State where
  delta : Nat
  bias : Nat
  written : Nat
  first : Bool
  output : List Char

/-- Takes one character of the label while the code point `n` is written. -/
def step (n : Nat) (st : State) (c : Char) : State :=
  if c.toNat < n then { st with delta := st.delta + 1 }
  else if c.toNat = n then
    { delta := 0
      bias := adapt st.delta (st.written + 1) st.first
      written := st.written + 1
      first := false
      output := st.output ++ integer (st.delta + 1) st.delta 36 st.bias }
  else st

/-- Writes the code points from `n` on, the least one that is left first. -/
def run (label : List Char) : (fuel n : Nat) → State → List Char
  | 0, _, st => st.output
  | fuel + 1, n, st =>
    match ((label.map Char.toNat).filter (n ≤ ·)).min? with
    | none => st.output
    | some m =>
      let st := { st with delta := st.delta + (m - n) * (st.written + 1) }
      let st := label.foldl (step m) st
      run label fuel (m + 1) { st with delta := st.delta + 1 }

/-- The Punycode of a label. -/
def encode (label : List Char) : List Char :=
  let basic := label.filter fun c => c.toNat < 128
  let front := if basic.isEmpty then [] else basic ++ ['-']
  run label (label.length + 1) 128
    { delta := 0, bias := 72, written := basic.length, first := true, output := front }

/-! ## Reading -/

/-- The value of a digit. -/
def digitValue? (c : Char) : Option Nat :=
  if 'a' ≤ c && c ≤ 'z' then some (c.toNat - 97)
  else if 'A' ≤ c && c ≤ 'Z' then some (c.toNat - 65)
  else if '0' ≤ c && c ≤ '9' then some (c.toNat - 22)
  else none

/-- Reads a variable length integer whose first digit counts `weight`: its value, and what follows
it. -/
def readInteger? (bias : Nat) : (k weight sum : Nat) → List Char → Option (Nat × List Char)
  | _, _, _, [] => none
  | k, weight, sum, c :: r =>
    match digitValue? c with
    | none => none
    | some d =>
      let t := threshold bias k
      let sum := sum + d * weight
      if d < t then some (sum, r) else readInteger? bias (k + 36) (weight * (36 - t)) sum r

/-- Puts code points into a label as a run of integers tells; `place` is where the next one goes
at the earliest, and `n` is the last one. -/
def insertAll? :
    (fuel n bias place : Nat) → (first : Bool) → (label : List Nat) → List Char →
      Option (List Nat)
  | _, _, _, _, _, label, [] => some label
  | 0, _, _, _, _, _, _ => none
  | fuel + 1, n, bias, place, first, label, digits =>
    match readInteger? bias 36 1 0 digits with
    | none => none
    | some (delta, rest) =>
      let count := label.length + 1
      let n := n + (place + delta) / count
      let place := (place + delta) % count
      if 0x10FFFF < n then none
      else
        insertAll? fuel n (adapt delta count first) (place + 1) false (label.insertIdx place n) rest

/-- The parts of a text before and after its last hyphen; without one all of it is after. -/
def splitLastHyphen (s : List Char) : Option (List Char) × List Char :=
  let after := (s.reverse.takeWhile (· != '-')).reverse
  if after.length = s.length then (none, s)
  else (some (s.take (s.length - after.length - 1)), after)

/-- The code points of a label that is written in Punycode. -/
def decode? (s : List Char) : Option (List Nat) :=
  let (front, digits) := splitLastHyphen s
  insertAll? digits.length 128 72 0 true ((front.getD []).map Char.toNat) digits

/-- Puts code points into a label like `insertAll?`, but ends with the label so far where a digit is
missing, and takes a question mark for what is above the last code point. -/
def insertReadable :
    (fuel n bias place : Nat) → (first : Bool) → (label : List Nat) → List Char → List Nat
  | _, _, _, _, _, label, [] => label
  | 0, _, _, _, _, label, _ => label
  | fuel + 1, n, bias, place, first, label, digits =>
    match readInteger? bias 36 1 0 digits with
    | none => label
    | some (delta, rest) =>
      let count := label.length + 1
      let next := n + (place + delta) / count
      let n := if 0x10FFFF < next then '?'.toNat else next
      let place := (place + delta) % count
      insertReadable fuel n (adapt delta count first) (place + 1) false (label.insertIdx place n)
        rest

/-- The code points that can be read of a text in Punycode: those before the last hyphen, and
those that the digits behind it put there. -/
def decodeReadable (front : List Nat) (digits : List Char) : List Nat :=
  insertReadable digits.length 128 72 0 true front digits

/-- A label of a host name in ASCII. -/
def asciiLabel (label : List Char) : List Char :=
  if label.all fun c => c.toNat < 128 then label else "xn--".toList ++ encode label

end InlineReview.Text.Punycode
