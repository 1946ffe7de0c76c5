import InlineReview.Json.Subscript
import InlineReview.Remote.Client
import InlineReview.Suggestion.Answer
import InlineReview.Suggestion.Prompt

/-!
# The model

A client asks the model for a repair and reads its answer.  Whatever the model answers, a finding
gets at most one suggestion, and an answer that is of no use gets an entry in the journal.
-/

namespace InlineReview

/-- A client of the model. -/
structure Model where
  client : Client
  name : String
  timeout : Seconds
  deriving DecidableEq, Repr

namespace Model

/-- A client of the model with a key. -/
def create (key name address : String) (timeout : Seconds) : Except Failure Model := do
  let client ← Client.create .model address [("x-goog-api-key", key), Client.jsonHeader]
  pure { client, name, timeout }

/-- The text that stands for no answer. -/
def noAnswer : String := "\x7b\x7d"

/-- The way to the text in a response's value. -/
def textPath : List Json.Subscript :=
  [.name "candidates", .place 0, .name "content", .name "parts", .place 0, .name "text"]

/-- The text in a response's value, or the text that stands for no answer: where the way to it ends
early, whatever the fault, and where it leads to something else or to an empty text. -/
def extractText (v : Json) : String :=
  match v.follow textPath with
  | .error .missing | .error .beyond | .error .unsuited => noAnswer
  | .ok (.str text) => if text = "" then noAnswer else text
  | .ok _ => noAnswer

/-- Draws the text from a response. -/
def conclude (response : Response) : Except Failure String :=
  if response.isError then
    match response.detail with
    | .ok detail => .error (.model (.refused response.status detail))
    | .error fault => .error (Failure.ofDetailFault fault)
  else
    match response.json with
    | .ok v => .ok (extractText v)
    | .error (.unreadable (.limit (.tooDeep container))) =>
      .error (.document (.limit (.tooDeep container)))
    | .error _ => .error (.model .notJson)

/-- What is sent to put a question. -/
def payload (question : String) : Json :=
  .obj [("contents", .arr [.obj [("role", .str "user"),
    ("parts", .arr [.obj [("text", .str question)]])]])]

/-- The call that puts a question to the model. -/
def generate (m : Model) (question : String) : Call String where
  request := m.client.request .post s!"/models/{m.name}:generateContent" none
    (some (payload question))
  conclude := conclude

/-- The most characters of an unreadable answer that an entry repeats. -/
def shownLength : Nat := 500

/-- What is written for a failure of the call, if the failure does not stop the review. -/
def excuse? (m : Model) : Failure → Option String
  | .model fault => some s!"Error fetching AI suggestions: {fault.message}"
  | .deadline _ => some s!"Gemini request timed out after {m.timeout.text}s"
  | .transport fault => some s!"Gemini request failed: {fault.message}"
  | _ => none

/-- At most one suggestion for a message about some code.  A guarded question heeds the token of
the run. -/
def suggestFix (m : Model) (guarded : Bool) (message code : String) : Run (List Suggestion) := do
  let context := Context.bind [] [("model", .str m.name)]
  let answer ← tryCatch
    (some <$> Run.timed context "gemini_generate"
      (Run.within guarded (some m.timeout) (m.generate (prompt message code)).start))
    fun failure =>
      match m.excuse? failure with
      | some excuse => do
        Run.note context .error excuse
        pure none
      | none => throw failure
  match answer with
  | none => pure []
  | some raw =>
    match Answer.read raw with
    | .error passed => throw (.document (.limit passed))
    | .ok (.suggestions found) => pure (found.take 1)
    | .ok (.unparseable why raw) =>
      Run.note context .error s!"Failed to parse Gemini response: {why.reason}"
      let shown := String.ofList (raw.toList.take shownLength)
      Run.note context .debug s!"Unparseable Gemini response: {shown}"
      pure []

/-- The client after it is no longer needed. -/
def close (m : Model) : Model := { m with client := m.client.close }

end Model

end InlineReview
