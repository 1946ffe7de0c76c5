import InlineReview.Proofs.Review.Inputs

/-!
# The steps of a review

The reference for a review, told without any action.  The findings that the patches show are
`Remark`s, in the order of the linter.  Each of them is one `Step`: a question, and the comment that
the answer gives it, if it gives one.  The answers are used up one after the other.

* `Reviewer.remarks` — the findings that are asked about.
* `Reviewer.steps` — what is asked and commented.
* `Reviewer.placed_of_steps` — which of the comments are posted.
* `Reviewer.Went.append` — a review goes through its steps part by part.
-/

namespace InlineReview

/-! ## Remarks -/

/-- A finding on a line that the patch of its file shows, with the place of the line and the code
around it. -/
structure Remark where
  path : String
  position : Nat
  finding : Finding
  code : String

namespace Remark

/-- What is asked about a finding. -/
def question (x : Remark) : String := prompt x.finding.message.text x.code

/-- The comment on a finding with a suggestion or without one. -/
def commentWith (x : Remark) (suggestion : Option Suggestion) : InlineComment where
  path := x.path
  position := x.position
  body := InlineComment.bodyOf x.finding.message x.finding.rule suggestion

/-- The comment on a finding, if it gets one: with the first suggestion of the answer, or without
one if comments without suggestions are wanted. -/
def comment? (postLintOnly : Bool) (x : Remark) (answer : List Suggestion) :
    Option InlineComment :=
  match answer.head?, postLintOnly with
  | some s, _ => some (x.commentWith (some s))
  | none, true => some (x.commentWith none)
  | none, false => none

theorem comment?_eq (postLintOnly : Bool) (x : Remark) (answer : List Suggestion) :
    x.comment? postLintOnly answer =
      (Reviewer.bodyFor postLintOnly x.finding answer).map fun body =>
        { path := x.path, position := x.position, body } := by
  cases answer <;> cases postLintOnly <;> rfl

end Remark

namespace Reviewer

/-- The remarks on the findings in a changed file: those on lines that its patch shows. -/
def remarksIn (store : FileStore) (path : String) (file : ChangedFile) :
    List Finding → Except Failure (List Remark)
  | [] => .ok []
  | finding :: rest =>
    match file.position? finding.line.toNat with
    | none => remarksIn store path file rest
    | some position => do
      let code ← (excerpt store (Path.ofText finding.file.text) finding.line.toNat).mapError .file
      return { path, position, finding, code } :: (← remarksIn store path file rest)

/-- The remarks on the findings under a path: none if no changed file is named so. -/
def remarksUnder (files : List ChangedFile) (store : FileStore) (path : String)
    (findings : List Finding) : Except Failure (List Remark) :=
  match fileNamed? files path with
  | none => .ok []
  | some file => remarksIn store path file findings

/-- The remarks on the findings of the linter: those in changed files. -/
def remarks (workspace : Path) (files : List ChangedFile) (store : FileStore) :
    List LintResult → Except Failure (List Remark)
  | [] => .ok []
  | result :: rest => do
    let path ← (placeOfReported result.file workspace).mapError .place
    let here ← remarksUnder files store path result.findings
    return here ++ (← remarks workspace files store rest)

end Reviewer

/-! ## Steps -/

/-- The suggestions that a reply gives: none if it is late, broken or of no use. -/
def Model.answerOf (m : Model) (reply : Reply) : List Suggestion :=
  if reply.isInTime (some m.timeout) then
    match reply.result with
    | .error _ => []
    | .ok response => (m.suggestionsFrom (conclude response)).toOption.getD []
  else []

/-- A question and the comment that its answer gives. -/
structure Step where
  question : String
  comment : Option InlineComment

namespace Reviewer

/-- The steps for remarks, with the replies that the model has left. -/
def steps (r : Reviewer) : List Reply → List Remark → List Step
  | _, [] => []
  | replies, x :: rest =>
    let answer := r.model.answerOf (replies.head?.getD (Reply.last .post))
    { question := x.question, comment := x.comment? r.settings.postLintOnly answer } ::
      steps r replies.tail rest

theorem steps_append (r : Reviewer) (replies : List Reply) (xs ys : List Remark) :
    r.steps replies (xs ++ ys) = r.steps replies xs ++ r.steps (replies.drop xs.length) ys := by
  induction xs generalizing replies with
  | nil => rfl
  | cons x xs ih =>
    rw [List.cons_append, steps, steps, ih replies.tail, List.cons_append, List.length_cons,
      List.drop_tail]

/-- Can the request that places a comment be put together? -/
def isPostable (r : Reviewer) (pull : Int) (commit : Option String) (c : InlineComment) : Bool :=
  (r.commentCall pull commit c).request.isOk

/-- The purposes of the requests of a step: the question, then the comment if it can be posted. -/
def purposesOf (r : Reviewer) (pull : Int) (commit : Option String) (s : Step) : List Purpose :=
  .question s.question ::
    (s.comment.toList.filter (r.isPostable pull commit)).map (.comment commit)

/-- The comments that steps place are those that can be posted. -/
theorem placed_of_steps (r : Reviewer) (pull : Int) (commit : Option String)
    (steps : List Step) :
    (steps.flatMap (r.purposesOf pull commit)).filterMap Purpose.placed? =
      ((steps.filterMap Step.comment).filter (r.isPostable pull commit)).map (commit, ·) := by
  induction steps with
  | nil => rfl
  | cons s rest ih =>
    rw [List.flatMap_cons, List.filterMap_append, ih, purposesOf]
    cases hcomment : s.comment with
    | none => simp [Purpose.placed?, hcomment]
    | some c =>
      by_cases hpostable : r.isPostable pull commit c = true
      · simp [List.filterMap_cons, Purpose.placed?, hcomment, hpostable]
      · simp [List.filterMap_cons, Purpose.placed?, hcomment, hpostable]

/-- Steps publish nothing. -/
theorem published_of_steps (r : Reviewer) (pull : Int) (commit : Option String)
    (steps : List Step) :
    (steps.flatMap (r.purposesOf pull commit)).filterMap Purpose.published? = [] := by
  refine List.filterMap_eq_nil_iff.2 fun p hp => ?_
  obtain ⟨s, -, hs⟩ := List.mem_flatMap.1 hp
  rcases List.mem_cons.1 hs with rfl | hcomment
  · rfl
  · obtain ⟨c, -, rfl⟩ := List.mem_map.1 hcomment
    rfl

/-! ## Going through steps -/

/-- Does the traffic show the steps for some remarks, and are these the comments? -/
structure Went (r : Reviewer) (pull : Int) (commit : Option String) (t : Traffic)
    (xs : List Remark) (comments : List InlineComment) (t' : Traffic) : Prop where
  sent : ∃ qs, t' = t.sendAll qs ∧
    qs.map Request.purpose = (r.steps t.modelReplies xs).flatMap (r.purposesOf pull commit)
  comments_eq : comments = (r.steps t.modelReplies xs).filterMap Step.comment
  replies : t'.modelReplies = t.modelReplies.drop xs.length

namespace Went

variable {r : Reviewer} {pull : Int} {commit : Option String} {t t₁ t' : Traffic}
  {xs ys : List Remark} {cs ds : List InlineComment}

theorem nil (r : Reviewer) (pull : Int) (commit : Option String) (t : Traffic) :
    r.Went pull commit t [] [] t where
  sent := ⟨[], rfl, rfl⟩
  comments_eq := rfl
  replies := rfl

/-- A review goes through its steps part by part. -/
theorem append (h : r.Went pull commit t xs cs t₁) (h' : r.Went pull commit t₁ ys ds t') :
    r.Went pull commit t (xs ++ ys) (cs ++ ds) t' where
  sent := by
    obtain ⟨qs, rfl, hqs⟩ := h.sent
    obtain ⟨ps, rfl, hps⟩ := h'.sent
    refine ⟨qs ++ ps, (t.sendAll_append qs ps).symm, ?_⟩
    rw [List.map_append, hqs, hps, h.replies, steps_append, List.flatMap_append]
  comments_eq := by
    rw [h.comments_eq, h'.comments_eq, h.replies, steps_append, List.filterMap_append]
  replies := by rw [h'.replies, h.replies, List.drop_drop, List.length_append]

theorem files_eq (h : r.Went pull commit t xs cs t') : t'.files = t.files := by
  obtain ⟨qs, rfl, -⟩ := h.sent
  exact t.files_sendAll qs

end Went

end Reviewer

end InlineReview
