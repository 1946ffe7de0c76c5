import InlineReview.FileStore
import InlineReview.Journal.Noting
import InlineReview.Json.Display
import InlineReview.Json.Reader
import InlineReview.Json.Shape

/-!
# Lint reports

A report is a JSON array with an object for each linted file: its path and its messages.  An
entry without a path is skipped with a warning, a message without a line is skipped silently, and
everything else becomes a finding, in order.
-/

namespace InlineReview

/-- The line of a finding.  The value true counts as the first line and is shown as it is. -/
inductive LineRef where
  | number (n : Nat)
  | flag
  deriving DecidableEq, Repr

namespace LineRef

/-- The number of the line. -/
def toNat : LineRef → Nat
  | .number n => n
  | .flag => 1

/-- The line as a value. -/
def toJson : LineRef → Json
  | .number n => .int n
  | .flag => .bool true

/-- The line that a value names: a whole number from one on, or true. -/
def ofJson? : Json → Option LineRef
  | .int n => if 1 ≤ n then some (.number n.toNat) else none
  | .bool true => some .flag
  | _ => none

end LineRef

/-- One complaint of the linter about a line of a file.  The rule is null if none is named. -/
structure Finding where
  file : Json
  line : LineRef
  message : Json
  rule : Json
  deriving Repr

/-- The findings in one file. -/
structure LintResult where
  file : Json
  findings : List Finding
  deriving Repr

namespace LintResult

/-- Why a report cannot be read. -/
inductive ReportFault where
  | notArray
  | shape (fault : ShapeFault)
  | unshown (fault : Json.ShowFault)
  deriving DecidableEq, Repr

/-- The wording of a fault. -/
def ReportFault.message : ReportFault → String
  | .notArray => "ESLint report must be a JSON array of file results."
  | .shape fault => fault.message
  | .unshown fault => fault.message

/-- The finding of a message, none if the message is about no line. -/
def findingOf? (file message : Json) : Except ShapeFault (Option Finding) := do
  match LineRef.ofJson? (← message.field "line") with
  | none => return none
  | some line =>
    let rule := (message.get? "ruleId").getD .null
    return some {
      file
      line
      message := (message.get? "message").getD (.str "")
      rule := if rule.isGiven then rule else .null }

/-- The findings of messages, in order. -/
def findingsOf (file : Json) (messages : List Json) : Except ShapeFault (List Finding) :=
  (messages.mapM (findingOf? file)).map fun found => found.filterMap id

/-- The messages of an entry. -/
def messagesOf (entry : Json) : Except ShapeFault (List Json) :=
  let messages := (entry.get? "messages").getD .null
  if messages.isGiven then messages.items else .ok []

/-- The path that an entry gives, if it gives one. -/
def fileOf? (entry : Json) : Option Json :=
  (entry.get? "filePath").bind fun file => if file.isGiven then some file else none

/-- The results of the entries of a report, in order. -/
def ofEntries : List Json → Noting ReportFault (List LintResult)
  | [] => pure []
  | entry :: rest => do
    match fileOf? entry with
    | none =>
      let shown ← Noting.ofExcept .unshown entry.shown
      Noting.note .warning s!"Skipping ESLint report entry without filePath: {shown}"
      ofEntries rest
    | some file =>
      let findings ← Noting.ofExcept .shape do
        findingsOf file (← messagesOf entry)
      return { file, findings } :: (← ofEntries rest)

/-- The results of a report. -/
def ofReport (report : Json) : Noting ReportFault (List LintResult) :=
  match report with
  | .arr entries => ofEntries entries
  | _ => throw .notArray

end LintResult

end InlineReview
