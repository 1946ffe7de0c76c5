import InlineReview.FileStore
import InlineReview.Json.Reader

/-!
# The event that starts a run

A run is started by an event that is written to a file as JSON.  Of its members only those named
here are read; a member of another kind than expected makes the event invalid.  A whole number may
also be written as a boolean, as a floating point number without fraction, or as a text.
-/

namespace InlineReview

open Text

/-- One side of a pull request. -/
structure Endpoint where
  ref : Option String
  sha : Option String
  deriving DecidableEq, Repr

/-- A pull request. -/
structure PullRequest where
  number : Int
  title : Option String
  url : Option String
  head : Endpoint
  base : Endpoint
  deriving DecidableEq, Repr

/-- A repository. -/
structure Repository where
  id : Option Int
  fullName : Option String
  name : Option String
  deriving DecidableEq, Repr

/-- An event. -/
structure Event where
  action : Option String
  pullRequest : Option PullRequest
  repository : Option Repository
  sender : List (String × Json)
  deriving Repr

/-- Why there is no event. -/
inductive EventFault where
  | file (path : String) (fault : FileFault)
  | malformed (path : String) (m : Json.Malformed)
  | invalid (path : String)
  | decoding (fault : DecodeFault)
  | limit (passed : Json.Limit)
  deriving DecidableEq, Repr

/-- The wording of a fault. -/
def EventFault.message : EventFault → String
  | .file path fault => s!"Unable to read event payload at {path}: {fault.message}"
  | .malformed path m => s!"Unable to read event payload at {path}: {m.message}"
  | .invalid path => s!"Event payload at {path} is not a valid pull request event."
  | .decoding fault => fault.message
  | .limit passed => passed.message

/-! ## Whole numbers in lenient notation -/

namespace LenientInt

/-- The blanks that may stand around a number: the white space of Unicode, without the
information separators. -/
def isSpace (c : Char) : Bool := isBlank c && ! (28 ≤ c.toNat && c.toNat ≤ 31)

/-- Drops zeros at the front, and underscores among them, but leaves one character before a point
or the end.  A minus sign may follow the zeros. -/
def dropZeros? : (last : Char) → List Char → Option (List Char)
  | last, [] => some [last]
  | last, c :: r =>
    if c = '0' || c = '_' then dropZeros? c r
    else if ('1' ≤ c && c ≤ '9') || c = '-' then some (c :: r)
    else if c = '.' then some (last :: c :: r)
    else none

/-- Drops the zeros at the front of a number, which starts with a digit. -/
def withoutZeros? : List Char → Option (List Char)
  | [] => none
  | c :: r => if c = '0' then dropZeros? c r else if isAsciiDigit c then some (c :: r) else none

/-- Drops a fraction that is nothing but zeros, at least one. -/
def withoutFraction? (s : List Char) : Option (List Char) :=
  match breakAt '.' s with
  | (_, none) => some s
  | (whole, some zeros) => if ! zeros.isEmpty && zeros.all (· == '0') then some whole else none

/-- Do underscores stand only between other characters, one at a time? -/
def underscoresApart (s : List Char) : Bool :=
  (pieces '_' s).all (! ·.isEmpty)

/-- Reads digits without a zero at the front, up to the longest numeral. -/
def readPlain? (s : List Char) : Option Nat :=
  if s.isEmpty || ! s.all isAsciiDigit || (1 < s.length && s.head? = some '0') ||
      Numeral.digitLimit < s.length then none
  else some (Numeral.ofDigits (s.map (·.toNat - 48)))

/-- Reads a number with an optional minus sign. -/
def readSigned? : List Char → Option Int
  | '-' :: r => (readPlain? r).map fun n => -(n : Int)
  | s => (readPlain? s).map fun n => (n : Int)

/-- Reads a number after its sign: digits, perhaps with underscores between them, and perhaps a
fraction of zeros. -/
def readUnsigned? (s : List Char) : Option Int := do
  let s ← withoutFraction? (← withoutZeros? s)
  if underscoresApart s then readSigned? (s.filter (· != '_')) else none

/-- Reads a text as a whole number. -/
def ofText? (text : String) : Option Int :=
  match trimWhere isSpace text.toList with
  | '-' :: r => if r.contains '-' then none else (readUnsigned? r).map (- ·)
  | '+' :: r => readUnsigned? r
  | s => readUnsigned? s

/-- Reads a floating point number that is whole and fits into 64 bits. -/
def ofDouble? (d : Double) : Option Int :=
  d.toInt?.filter fun n => n.natAbs < Nat.pow 2 63

/-- Reads a value as a whole number. -/
def ofJson? : Json → Option Int
  | .int n => some n
  | .bool b => some (if b then 1 else 0)
  | .real d => ofDouble? d
  | .str s => ofText? s
  | _ => none

end LenientInt

/-! ## Members -/

/-- An optional member: absent or null, or read by `read?`, which may refuse it. -/
def optionalMember {α : Type} (read? : Json → Option α) (name : String) (v : Json) :
    Option (Option α) :=
  match v.get? name with
  | none | some .null => some none
  | some w => (read? w).map some

/-- An object member that may be absent but not null. -/
def defaultedMember {α : Type} (read? : Json → Option α) (default : α) (name : String)
    (v : Json) : Option α :=
  match v.get? name with
  | none => some default
  | some w => read? w

/-- An object as its members. -/
def membersOf? : Json → Option (List (String × Json))
  | .obj members => some members
  | _ => none

namespace Endpoint

/-- Reads one side of a pull request. -/
def ofJson? (v : Json) : Option Endpoint := do
  let _ ← membersOf? v
  let ref ← optionalMember Json.str? "ref" v
  let sha ← optionalMember Json.str? "sha" v
  pure { ref, sha }

/-- A side about which nothing is known. -/
def unknown : Endpoint := { ref := none, sha := none }

end Endpoint

namespace PullRequest

/-- Reads a pull request. -/
def ofJson? (v : Json) : Option PullRequest := do
  let _ ← membersOf? v
  let number ← (v.get? "number").bind LenientInt.ofJson?
  let title ← optionalMember Json.str? "title" v
  let url ← optionalMember Json.str? "url" v
  let head ← defaultedMember Endpoint.ofJson? Endpoint.unknown "head" v
  let base ← defaultedMember Endpoint.ofJson? Endpoint.unknown "base" v
  pure { number, title, url, head, base }

end PullRequest

namespace Repository

/-- Reads a repository. -/
def ofJson? (v : Json) : Option Repository := do
  let _ ← membersOf? v
  let id ← optionalMember LenientInt.ofJson? "id" v
  let fullName ← optionalMember Json.str? "full_name" v
  let name ← optionalMember Json.str? "name" v
  pure { id, fullName, name }

end Repository

namespace Event

/-- Reads an event. -/
def ofJson? (v : Json) : Option Event := do
  let _ ← membersOf? v
  let action ← optionalMember Json.str? "action" v
  let pullRequest ← optionalMember PullRequest.ofJson? "pull_request" v
  let repository ← optionalMember Repository.ofJson? "repository" v
  let sender ← defaultedMember membersOf? [] "sender" v
  pure { action, pullRequest, repository, sender }

/-- The commit that a pull request proposes. -/
def headSha (e : Event) : Option String := e.pullRequest.bind (·.head.sha)

/-- Reads the event in a file. -/
def load (store : FileStore) (path : Path) : Except EventFault Event :=
  match store.text path with
  | .error (.file fault) => .error (.file path.text fault)
  | .error (.decoding fault) => .error (.decoding fault)
  | .ok s =>
    match Json.readL s with
    | .error (.malformed m) => .error (.malformed path.text m)
    | .error (.limit passed) => .error (.limit passed)
    | .ok v =>
      match ofJson? v with
      | none => .error (.invalid path.text)
      | some event => .ok event

end Event

end InlineReview
