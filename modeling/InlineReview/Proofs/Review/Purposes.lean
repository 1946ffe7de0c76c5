import InlineReview.Proofs.Suggestion.Asking
import InlineReview.Proofs.Suggestion.Extraction
import InlineReview.Review.Reviewer

/-!
# What requests are for

A review sends requests of four kinds: it lists the changed files, asks the model, places comments
and publishes check runs.  `Request.purpose` tells them apart by what is sent, and reads from it
what is asked, placed or published.

* `CodeHost.isOk_call_iff` — when the request of a call can be put together.
* `purpose_question`, `purpose_comment`, `purpose_checkRun`, `purpose_listing` — the requests of a
  review have the purposes for which they are put together.
-/

namespace InlineReview

open Text

/-! ## Reading what is sent -/

/-- What a request is for. -/
inductive Purpose where
  | listing
  | question (text : String)
  | comment (commit : Option String) (c : InlineComment)
  | checkRun (run : CodeHost.CheckRun)
  | other
  deriving DecidableEq, Repr

namespace Purpose

/-- The question in what is sent to the model. -/
def questionOf? (v : Json) : Option String := do
  let content ← Model.first? (← v.get? "contents")
  let part ← Model.first? (← content.get? "parts")
  (← part.get? "text").str?

/-- The commit and the comment in what is sent to place it. -/
def commentOf? (v : Json) : Option (Option String × InlineComment) :=
  match v.get? "path", v.get? "position", v.get? "body" with
  | some (.str path), some (.int (.ofNat position)), some (.str body) =>
    some ((v.get? "commit_id").bind Json.str?, { path, position, body })
  | _, _, _ => none

/-- The check run in what is sent to publish it. -/
def checkRunOf? (v : Json) : Option CodeHost.CheckRun := do
  let name ← (← v.get? "name").str?
  let commit := (v.get? "head_sha").bind Json.str?
  let conclusion ← (← v.get? "conclusion").str?
  let output ← v.get? "output"
  let title ← (← output.get? "title").str?
  let summary ← (← output.get? "summary").str?
  let text := (output.get? "text").bind Json.str?
  pure { name, commit, title, summary, text, conclusion }

/-- The comment that a purpose is to place, with the commit. -/
def placed? : Purpose → Option (Option String × InlineComment)
  | .comment commit c => some (commit, c)
  | _ => none

/-- The check run that a purpose is to publish. -/
def published? : Purpose → Option CodeHost.CheckRun
  | .checkRun run => some run
  | _ => none

/-- What is posted to the code host: a comment or a check run. -/
def ofPosted (v : Json) : Purpose :=
  match commentOf? v, checkRunOf? v with
  | some (commit, c), _ => .comment commit c
  | none, some run => .checkRun run
  | none, none => .other

end Purpose

/-- What a request is for. -/
def Request.purpose (q : Request) : Purpose :=
  match q.remote, q.method, q.body with
  | .codeHost, .get, none => .listing
  | .codeHost, .post, some v => .ofPosted v
  | .model, .post, some v => (Purpose.questionOf? v).elim .other .question
  | _, _, _ => .other

/-! ## Purposes of the requests of a review -/

/-- A check run as it is published: an empty text is left out. -/
def CodeHost.CheckRun.published (run : CheckRun) : CheckRun :=
  { run with text := run.text.filter (· ≠ "") }

theorem Purpose.questionOf?_payload (text : String) :
    questionOf? (Model.payload text) = some text := rfl

theorem Purpose.ofPosted_comment (commit : Option String) (c : InlineComment) :
    ofPosted (.obj [("body", .str c.body), ("commit_id", Json.ofText? commit),
      ("path", .str c.path), ("position", .int c.position)]) = .comment commit c := by
  cases commit <;> rfl

theorem Purpose.ofPosted_checkRun (run : CodeHost.CheckRun) :
    ofPosted run.payload = .checkRun run.published := by
  obtain ⟨name, commit, title, summary, text, conclusion⟩ := run
  cases text with
  | none => cases commit <;> rfl
  | some text =>
    by_cases htext : text = ""
    · subst htext
      cases commit <;> rfl
    · have hpublished : (some text).filter (· ≠ "") = some text := by simp [htext]
      simp only [CodeHost.CheckRun.payload, CodeHost.CheckRun.published, hpublished]
      cases commit <;> rfl

namespace CodeHost

variable {α : Type} {c : Client} {method : Method} {path : Except Failure String}
  {parameters : Option String} {body : Option Json} {conclude : Response → Except Failure α}
  {q : Request}

theorem request_call :
    (call c method path parameters body conclude).request =
      path >>= fun p => c.request method p parameters body := rfl

theorem parts_of_call (h : (call c method path parameters body conclude).request = .ok q) :
    q.remote = c.remote ∧ q.method = method ∧ q.body = body := by
  cases path with
  | error e => cases h
  | ok p => exact Client.parts_of_request h

/-- Where requests for a resource can be put together, one with a body can be if that is
writable. -/
theorem isOk_call_iff {p : String} {v : Json} {bare : Request} (hpath : path = .ok p)
    (hbare : c.request method p parameters none = .ok bare) :
    (call c method path parameters (some v) conclude).request.isOk = true ↔
      IsWritable v.plainL := by
  rw [request_call, hpath]
  show (c.request method p parameters (some v)).isOk = true ↔ _
  by_cases hwritable : IsWritable v.plainL
  · rw [Client.request_of_writable hbare hwritable]
    exact iff_of_true rfl hwritable
  · obtain ⟨fault, hfault⟩ := Client.request_of_not_writable hbare hwritable
    rw [hfault]
    exact iff_of_false (by simp [Except.isOk, Except.toBool]) hwritable

end CodeHost

section Purposes

variable {c : Client} {fullName : String} {pull : Int} {q : Request}

theorem purpose_question {m : Model} {message code : String} (hremote : m.client.remote = .model)
    (h : (m.question message code).request = .ok q) :
    q.remote = .model ∧ q.purpose = .question (prompt message code) := by
  obtain ⟨hq, hmethod, hbody⟩ := Client.parts_of_request h
  rw [hremote] at hq
  simp [Request.purpose, hq, hmethod, hbody, Purpose.questionOf?_payload]

theorem purpose_listing {page : Nat} (hremote : c.remote = .codeHost)
    (h : (CodeHost.listPage c fullName pull page).request = .ok q) :
    q.remote = .codeHost ∧ q.purpose = .listing := by
  obtain ⟨hq, hmethod, hbody⟩ := CodeHost.parts_of_call h
  rw [hremote] at hq
  simp [Request.purpose, hq, hmethod, hbody]

theorem purpose_comment {commit : Option String} {comment : InlineComment}
    (hremote : c.remote = .codeHost)
    (h : (CodeHost.createComment c fullName pull commit comment.path comment.position
      comment.body).request = .ok q) :
    q.remote = .codeHost ∧ q.purpose = .comment commit comment := by
  obtain ⟨hq, hmethod, hbody⟩ := CodeHost.parts_of_call h
  rw [hremote] at hq
  simp [Request.purpose, hq, hmethod, hbody, Purpose.ofPosted_comment]

theorem purpose_checkRun {run : CodeHost.CheckRun} (hremote : c.remote = .codeHost)
    (h : (CodeHost.createCheckRun c fullName run).request = .ok q) :
    q.remote = .codeHost ∧ q.purpose = .checkRun run.published := by
  obtain ⟨hq, hmethod, hbody⟩ := CodeHost.parts_of_call h
  rw [hremote] at hq
  simp [Request.purpose, hq, hmethod, hbody, Purpose.ofPosted_checkRun]

end Purposes

end InlineReview
