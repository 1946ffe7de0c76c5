import InlineReview.Json.Basic

/-!
# Journal entries

An entry is a message with a level and the context bound when it was written: fields with a
value, in the order in which they were first bound.
-/

namespace InlineReview

/-- How much an entry matters. -/
inductive Level where
  | trace
  | debug
  | info
  | success
  | warning
  | error
  | critical
  deriving DecidableEq, Repr

namespace Level

/-- The place of a level in their order. -/
def rank : Level → Nat
  | .trace => 5
  | .debug => 10
  | .info => 20
  | .success => 25
  | .warning => 30
  | .error => 40
  | .critical => 50

/-- The name of a level. -/
def name : Level → String
  | .trace => "TRACE"
  | .debug => "DEBUG"
  | .info => "INFO"
  | .success => "SUCCESS"
  | .warning => "WARNING"
  | .error => "ERROR"
  | .critical => "CRITICAL"

/-- All levels in ascending order. -/
def all : List Level := [.trace, .debug, .info, .success, .warning, .error, .critical]

/-- The level with a name; capitals matter. -/
def named? (s : String) : Option Level := all.find? (·.name = s)

/-- Is an entry of this level kept at a threshold? -/
def reaches (threshold level : Level) : Bool := threshold.rank ≤ level.rank

end Level

/-- Bound fields. -/
abbrev Context := List (String × Json)

/-- Binds fields; one without a value is not bound, and a later value replaces an earlier one. -/
def Context.bind (context : Context) (fields : List (String × Json)) : Context :=
  fields.foldl (fun c (name, value) =>
    match value with
    | .null => c
    | v => Assoc.put name v c) context

/-- An entry of the journal. -/
structure Entry where
  level : Level
  message : String
  context : Context
  deriving Repr

/-- The entries of at least a level. -/
def entriesFrom (threshold : Level) (entries : List Entry) : List Entry :=
  entries.filter fun e => threshold.reaches e.level

end InlineReview
