import InlineReview.Json.Display
import InlineReview.Json.Reader
import InlineReview.Suggestion.Fence

/-!
# The model's answers

An answer is the JSON text of an object with a list of suggestions, raw or in a fenced block.
Each suggestion that has both code and an explanation is kept, in order.  An answer that cannot
be read so is a value that says why; only a passed limit of the reader is a failure.
-/

namespace InlineReview

open Text

/-- A proposed piece of code with the reason for it. -/
structure Suggestion where
  code : String
  explanation : String
  deriving DecidableEq, Repr

namespace Answer

/-- Why an answer cannot be read. -/
inductive Unparseable where
  | notText (kind : String)
  | empty
  | malformed (m : Json.Malformed)
  | badShape (errors : Nat)
  deriving DecidableEq, Repr

/-- The wording of why an answer cannot be read. -/
def Unparseable.reason : Unparseable → String
  | .notText kind => s!"expected text, got {kind}"
  | .empty => "empty response"
  | .malformed m => s!"invalid JSON: {m.message}"
  | .badShape errors => s!"unexpected shape: {errors} validation error(s)"

/-- What an answer says. -/
inductive Reading where
  | suggestions (found : List Suggestion)
  | unparseable (why : Unparseable) (raw : String)
  deriving DecidableEq, Repr

/-! ## The shape of an answer -/

/-- A field that is a text or null, and the number of errors in it. -/
def textField (name : String) (entry : Json) : Option String × Nat :=
  match entry.get? name with
  | none | some .null => (none, 0)
  | some (.str s) => (some s, 0)
  | some _ => (none, 1)

/-- One entry of the list, and the number of errors in it. -/
def readEntry (entry : Json) : Option Suggestion × Nat :=
  match entry with
  | .obj _ =>
    let (code?, e₁) := textField "code" entry
    let (explanation?, e₂) := textField "explanation" entry
    (code?.bind fun code => explanation?.map fun explanation => { code, explanation }, e₁ + e₂)
  | _ => (none, 1)

/-- The suggestions of a list of entries, or the number of errors in it. -/
def readEntries (entries : List Json) : Except Nat (List Suggestion) :=
  let read := entries.map readEntry
  let errors := read.foldl (fun n (_, errors) => n + errors) 0
  if errors = 0 then .ok (read.filterMap (·.1)) else .error errors

/-- The suggestions of an answer's value, or the number of errors in it. -/
def readEnvelope (v : Json) : Except Nat (List Suggestion) :=
  match v with
  | .obj members =>
    match Assoc.get? "suggestions" members with
    | none => .ok []
    | some (.arr entries) => readEntries entries
    | some _ => .error 1
  | _ => .error 1

/-! ## Reading an answer -/

/-- Reads the text of an answer. -/
def read (raw : String) : Except Json.Limit Reading :=
  let fragment := trimL (Fence.fragmentL raw.toList)
  if fragment.isEmpty then .ok (.unparseable .empty raw)
  else
    match Json.readL fragment with
    | .error (.malformed m) => .ok (.unparseable (.malformed m) raw)
    | .error (.limit passed) => .error passed
    | .ok v =>
      match readEnvelope v with
      | .error errors => .ok (.unparseable (.badShape errors) raw)
      | .ok found => .ok (.suggestions found)

/-- Why nothing can be said about an answer. -/
inductive ValueFault where
  | limit (passed : Json.Limit)
  | unshown (fault : Json.ShowFault)
  deriving DecidableEq, Repr

/-- Reads an answer that should be a text. -/
def readValue (v : Json) : Except ValueFault Reading :=
  match v with
  | .str raw => (read raw).mapError .limit
  | v => (v.shown.mapError .unshown).map (.unparseable (.notText v.kind) ·)

end Answer

end InlineReview
