import InlineReview.Proofs.Review.Remarks

/-!
# Going through the findings

What the actions of a review do to the traffic, from a single finding up to all results of the
linter.  Each of them `Reviews` the remarks on its findings: it sends nothing but questions and
comments, has gone through the steps for the remarks if it does not fail, and does not fail in a
calm run whose questions are harmless.

* `Reviewer.obeys_append` — a review goes on from part to part.
* `Reviewer.obeys_reviewFinding`, `Reviewer.obeys_reviewFindings`, `Reviewer.obeys_reviewResults` —
  findings, one, those of a file, and all.
-/

namespace InlineReview

namespace Reviewer

/-! ## Parts of a review -/

/-- Are the questions about remarks harmless, with the replies that the model has left? -/
def AreHarmless (r : Reviewer) : List Reply → List Remark → Prop
  | _, [] => True
  | replies, x :: rest =>
    r.model.IsHarmless x.finding.message.text x.code (replies.head?.getD (Reply.last .post)) ∧
      AreHarmless r replies.tail rest

theorem areHarmless_append (r : Reviewer) (replies : List Reply) (xs ys : List Remark) :
    r.AreHarmless replies (xs ++ ys) ↔
      r.AreHarmless replies xs ∧ r.AreHarmless (replies.drop xs.length) ys := by
  induction xs generalizing replies with
  | nil => simp [AreHarmless]
  | cons x xs ih =>
    rw [List.cons_append, AreHarmless, AreHarmless, ih replies.tail, List.drop_tail,
      List.length_cons, and_assoc]

/-- What a part of a review does, whose remarks are told by the files. -/
structure Reviews (r : Reviewer) (pull : Int) (commit : Option String)
    (remarksOf : FileStore → Except Failure (List Remark)) (t : Traffic)
    (res : Except Failure (List InlineComment)) (t' : Traffic) : Prop where
  /-- It sends nothing but questions and comments. -/
  sends : t.Remarks t'
  /-- If it does not fail, it has gone through the steps for the remarks. -/
  went : ∀ comments, res = .ok comments →
    ∃ xs, remarksOf t.files = .ok xs ∧ r.Went pull commit t xs comments t'
  /-- It does not fail in a calm run whose questions are harmless. -/
  succeeds : t.isCalm = true → r.model.IsAddressed → ∀ xs, remarksOf t.files = .ok xs →
    r.AreHarmless t.modelReplies xs → ∃ comments, res = .ok comments

theorem Went.isCalm_eq {r : Reviewer} {pull : Int} {commit : Option String} {t t' : Traffic}
    {xs : List Remark} {cs : List InlineComment} (h : r.Went pull commit t xs cs t') :
    t'.isCalm = t.isCalm := by
  obtain ⟨qs, rfl, -⟩ := h.sent
  exact t.isCalm_sendAll qs

theorem append_eq_ok {f g : Except Failure (List Remark)} {zs : List Remark} :
    (do return (← f) ++ (← g)) = .ok zs ↔ ∃ xs ys, f = .ok xs ∧ g = .ok ys ∧ zs = xs ++ ys := by
  cases f with
  | error e => simp [bind, Except.bind]
  | ok xs =>
    cases g with
    | error e => simp [bind, Except.bind]
    | ok ys => simp [bind, Except.bind, pure, Except.pure, eq_comm]

section Parts

variable {r : Reviewer} {pull : Int} {commit : Option String}
  {f g : FileStore → Except Failure (List Remark)} {x y : Run (List InlineComment)}

theorem obeys_nothing :
    (pure [] : Run (List InlineComment)).Obeys (r.Reviews pull commit fun _ => .ok []) := by
  refine (Run.obeys_pure []).imp ?_
  rintro t res t' ⟨rfl, rfl⟩
  refine ⟨.refl _, fun comments h => ⟨[], rfl, ?_⟩, fun _ _ _ _ _ => ⟨[], rfl⟩⟩
  obtain rfl := Except.ok.inj h
  exact .nil r pull commit t'

/-- A review goes on from part to part. -/
theorem obeys_append (hx : x.Obeys (r.Reviews pull commit f))
    (hy : y.Obeys (r.Reviews pull commit g)) :
    (do let cs ← x; let ds ← y; pure (cs ++ ds)).Obeys
      (r.Reviews pull commit fun store => do return (← f store) ++ (← g store)) := by
  refine (hx.bind fun cs => hy.bind fun ds => Run.obeys_pure (cs ++ ds)).imp ?_
  rintro t res t' (⟨e, hfirst, rfl⟩ | ⟨cs, t₁, hfirst, ⟨e, hsecond, rfl⟩ |
    ⟨ds, _, hsecond, rfl, rfl⟩⟩)
  · refine ⟨hfirst.sends, fun _ h => (by cases h), fun hcalm haddressed zs hzs hharmless => ?_⟩
    obtain ⟨xs, ys, hxs, -, rfl⟩ := append_eq_ok.1 hzs
    obtain ⟨_, h⟩ := hfirst.succeeds hcalm haddressed xs hxs
      ((r.areHarmless_append _ xs ys).1 hharmless).1
    cases h
  · refine ⟨hfirst.sends.trans hsecond.sends, fun _ h => (by cases h),
      fun hcalm haddressed zs hzs hharmless => ?_⟩
    obtain ⟨xs, ys, hxs, hys, rfl⟩ := append_eq_ok.1 hzs
    obtain ⟨xs', hxs', hwent⟩ := hfirst.went cs rfl
    obtain rfl := Except.ok.inj (hxs.symm.trans hxs')
    obtain ⟨_, h⟩ := hsecond.succeeds (by rw [hwent.isCalm_eq, hcalm]) haddressed ys
      (by rw [hwent.files_eq, hys])
      (by rw [hwent.replies]; exact ((r.areHarmless_append _ xs ys).1 hharmless).2)
    cases h
  · refine ⟨hfirst.sends.trans hsecond.sends, fun all h => ?_, fun _ _ _ _ _ => ⟨_, rfl⟩⟩
    obtain ⟨xs, hxs, hwent⟩ := hfirst.went cs rfl
    obtain ⟨ys, hys, hwent'⟩ := hsecond.went ds rfl
    rw [hwent.files_eq] at hys
    rw [← Except.ok.inj h]
    exact ⟨xs ++ ys, append_eq_ok.2 ⟨xs, ys, hxs, hys, rfl⟩, hwent.append hwent'⟩

/-- A review goes on if it has not been cancelled, as it has not in a calm run. -/
theorem obeys_unlessCancelled (hx : x.Obeys (r.Reviews pull commit f)) :
    (Run.checkCancelled >>= fun _ => x).Obeys (r.Reviews pull commit f) := by
  refine (Run.obeys_checkCancelled.bind fun _ => hx).imp ?_
  rintro t res t' (⟨e, ⟨rfl, hcancelled⟩, rfl⟩ | ⟨_, _, ⟨rfl, -⟩, hreviews⟩)
  · refine ⟨.refl _, fun _ h => (by cases h), fun hcalm => ?_⟩
    rcases hcancelled with h | ⟨hstormy, -⟩
    · cases h
    · rw [hstormy] at hcalm
      cases hcalm
  · exact hreviews

/-- A review goes on with what has been read, if it could be. -/
theorem obeys_ofExcept_bind {α ε : Type} {wrap : ε → Failure} {a : Except ε α}
    {next : α → Run (List InlineComment)} {h : α → FileStore → Except Failure (List Remark)}
    (hnext : ∀ a, (next a).Obeys (r.Reviews pull commit (h a))) :
    (Run.ofExcept wrap a >>= next).Obeys
      (r.Reviews pull commit fun store => a.mapError wrap >>= fun a => h a store) := by
  cases a with
  | ok a => exact hnext a
  | error e =>
    exact fun w => ⟨.refl _, fun _ h => (by cases h), fun _ _ _ h => (by cases h)⟩

end Parts

/-! ## Findings -/

section Finding

variable {r : Reviewer} {pull : Int} {commit : Option String} {t t' : Traffic} {x : Remark}
  {q : Request}

theorem steps_singleton (r : Reviewer) (replies : List Reply) (x : Remark) :
    r.steps replies [x] = [{
      question := x.question
      comment := x.comment? r.settings.postLintOnly
        (r.model.answerOf (replies.head?.getD (Reply.last .post))) }] := rfl

/-- A question without a comment is the step for its remark. -/
theorem Went.of_question (hremote : q.remote = .model) (hpurpose : q.purpose = .question x.question)
    (hnone : x.comment? r.settings.postLintOnly
      (r.model.answerOf (t.modelReplies.head?.getD (Reply.last .post))) = none) :
    r.Went pull commit t [x] [] (t.send q) where
  sent := ⟨[q], rfl, by simp [steps_singleton, hnone, purposesOf, hpurpose]⟩
  comments_eq := by simp [steps_singleton, hnone]
  replies := by simp [Traffic.modelReplies_send_model hremote]

/-- A question and a comment are the step for their remark. -/
theorem Went.of_comment {c : InlineComment} (hremote : q.remote = .model)
    (hpurpose : q.purpose = .question x.question)
    (hsome : x.comment? r.settings.postLintOnly
      (r.model.answerOf (t.modelReplies.head?.getD (Reply.last .post))) = some c)
    (hposts : r.Posts pull commit c (t.send q) t') : r.Went pull commit t [x] [c] t' := by
  obtain ⟨qs, rfl, hhost, hqs⟩ := hposts
  refine ⟨⟨q :: qs, rfl, ?_⟩, ?_, ?_⟩
  · simp [steps_singleton, hsome, purposesOf, hpurpose, hqs]
  · simp [steps_singleton, hsome]
  · rw [Traffic.modelReplies_sendAll_host hhost, Traffic.modelReplies_send_model hremote]
    simp

end Finding

/-- What follows the answer to a question: the comment that the answer gives is posted. -/
theorem obeys_commentOn {r : Reviewer} (hhost : r.host.remote = .codeHost) (pull : Int)
    (commit : Option String) (context : Context) (x : Remark) (found : List Suggestion) :
    (match bodyFor r.settings.postLintOnly x.finding found with
      | none => do
        Run.note context .info "No AI suggestion returned; not commenting"
        pure none
      | some body => do
        r.postComment pull commit { path := x.path, position := x.position, body }
        pure (some { path := x.path, position := x.position, body }) :
      Run (Option InlineComment)).Obeys fun t res t' => t.Remarks t' ∧
        (∀ comment, res = .ok comment → comment = x.comment? r.settings.postLintOnly found ∧
          (comment = none → t' = t) ∧ ∀ c, comment = some c → r.Posts pull commit c t t') ∧
        (t.isCalm = true → ∃ comment, res = .ok comment) := by
  rw [Remark.comment?_eq]
  cases bodyFor r.settings.postLintOnly x.finding found with
  | none =>
    refine ((Run.obeys_pure none).after (Run.isQuiet_note _ _ _)).imp ?_
    rintro t res t' ⟨rfl, rfl⟩
    refine ⟨.refl _, fun comment h => ?_, fun _ => ⟨none, rfl⟩⟩
    obtain rfl := Except.ok.inj h
    exact ⟨rfl, fun _ => rfl, fun c hc => by cases hc⟩
  | some body =>
    refine ((obeys_postComment hhost pull commit _).bind fun _ => Run.obeys_pure _).imp ?_
    rintro t res t' (⟨e, ⟨hremarks, -, hcalm⟩, rfl⟩ | ⟨_, t₁, ⟨hremarks, hposts, -⟩, rfl, rfl⟩)
    · exact ⟨hremarks, fun _ h => (by cases h), fun h => by cases hcalm h⟩
    · refine ⟨hremarks, fun comment h => ?_, fun _ => ⟨_, rfl⟩⟩
      obtain rfl := Except.ok.inj h
      refine ⟨rfl, fun hc => (by cases hc), fun c hc => ?_⟩
      rw [← Option.some.inj hc]
      exact hposts rfl

theorem remarksIn_none {file : ChangedFile} {finding : Finding}
    (h : file.position? finding.line.toNat = none) (store : FileStore) (path : String) :
    remarksIn store path file [finding] = .ok [] := by
  rw [remarksIn, h]
  rfl

theorem remarksIn_some {file : ChangedFile} {finding : Finding} {position : Nat}
    (h : file.position? finding.line.toNat = some position) (store : FileStore) (path : String) :
    remarksIn store path file [finding] =
      (excerpt store (Path.ofText finding.file.text) finding.line.toNat).mapError .file >>=
        fun code => .ok [{ path, position, finding, code }] := by
  rw [remarksIn, h]
  rfl

/-- Reviewing a finding goes through the step for its remark, if it has one. -/
theorem obeys_reviewFinding {r : Reviewer} (hhost : r.host.remote = .codeHost)
    (hmodel : r.model.client.remote = .model) (pull : Int) (commit : Option String) (path : String)
    (file : ChangedFile) (finding : Finding) :
    (Option.toList <$> r.reviewFinding pull commit path file finding).Obeys
      (r.Reviews pull commit fun store => remarksIn store path file [finding]) := by
  unfold reviewFinding
  cases hposition : file.position? finding.line.toNat with
  | none =>
    refine (((Run.obeys_pure none).after (Run.isQuiet_note _ _ _)).map Option.toList).imp ?_
    rintro t res t' ⟨_, ⟨rfl, rfl⟩, rfl⟩
    refine ⟨.refl _, fun comments h => ⟨[], remarksIn_none hposition _ _, ?_⟩,
      fun _ _ _ _ _ => ⟨_, rfl⟩⟩
    obtain rfl := Except.ok.inj h
    exact .nil r pull commit t'
  | some position =>
    refine ((Run.Obeys.reading Failure.file (fun store => excerpt store
      (Path.ofText finding.file.text) finding.line.toNat) fun code =>
        ((Model.obeys_suggestFix hmodel finding.message.text code).and
          (Model.isOk_suggestFix hmodel finding.message.text code)).bind fun found =>
            obeys_commentOn hhost pull commit _ { path, position, finding, code } found).map
              Option.toList).imp ?_
    rintro t _ t' ⟨res, hreads, rfl⟩
    have hremarks := remarksIn_some hposition t.files path
    rcases hreads with ⟨e, hcode, rfl, rfl⟩ | ⟨code, hcode, hstep⟩
    · refine ⟨.refl _, fun _ h => (by cases h), fun _ _ xs hxs => ?_⟩
      rw [hremarks, hcode] at hxs
      cases hxs
    rw [hcode] at hremarks
    rcases hstep with ⟨e, ⟨⟨hsends, -⟩, hsucceeds⟩, rfl⟩ |
      ⟨found, t₁, ⟨⟨hsends, hfound⟩, -⟩, hsends', hcomment, hsucceeds⟩
    · refine ⟨hsends, fun _ h => (by cases h), fun hcalm haddressed xs hxs hharmless => ?_⟩
      obtain rfl := Except.ok.inj (hremarks.symm.trans hxs)
      obtain ⟨_, h⟩ := hsucceeds hcalm haddressed hharmless.1
      cases h
    obtain ⟨q, hq, hpurpose, rfl, rfl⟩ := hfound found rfl
    refine ⟨hsends.trans hsends', fun comments h => ⟨_, hremarks, ?_⟩, fun hcalm _ _ _ _ => ?_⟩
    · cases res with
      | error e => cases h
      | ok comment =>
        obtain rfl := Except.ok.inj h
        obtain ⟨hgiven, hnone, hsome⟩ := hcomment comment rfl
        cases comment with
        | none =>
          rw [hnone rfl]
          exact .of_question hq hpurpose hgiven.symm
        | some c => exact .of_comment hq hpurpose hgiven.symm (hsome c rfl)
    · obtain ⟨comment, rfl⟩ := hsucceeds (by rwa [Traffic.isCalm_send])
      exact ⟨_, rfl⟩

theorem remarksIn_cons (store : FileStore) (path : String) (file : ChangedFile)
    (finding : Finding) (rest : List Finding) :
    remarksIn store path file (finding :: rest) = do
      return (← remarksIn store path file [finding]) ++ (← remarksIn store path file rest) := by
  cases hposition : file.position? finding.line.toNat with
  | none =>
    rw [remarksIn_none hposition, remarksIn, hposition]
    cases remarksIn store path file rest <;> rfl
  | some position =>
    rw [remarksIn_some hposition, remarksIn, hposition]
    cases (excerpt store (Path.ofText finding.file.text) finding.line.toNat).mapError
      Failure.file <;> rfl

/-- Reviewing the findings in a changed file goes through the steps for their remarks. -/
theorem obeys_reviewFindings {r : Reviewer} (hhost : r.host.remote = .codeHost)
    (hmodel : r.model.client.remote = .model) (pull : Int) (commit : Option String) (path : String)
    (file : ChangedFile) (findings : List Finding) :
    (r.reviewFindings pull commit path file findings).Obeys
      (r.Reviews pull commit fun store => remarksIn store path file findings) := by
  induction findings with
  | nil => exact obeys_nothing
  | cons finding rest ih =>
    have hstep := obeys_unlessCancelled
      (obeys_append (obeys_reviewFinding hhost hmodel pull commit path file finding) ih)
    simp only [bind_map_left] at hstep
    rw [funext fun store => remarksIn_cons store path file finding rest]
    exact hstep

/-- Reviews the findings under a path. -/
def reviewUnder (r : Reviewer) (pull : Int) (commit : Option String) (files : List ChangedFile)
    (path : String) (findings : List Finding) : Run (List InlineComment) :=
  match fileNamed? files path with
  | none => do
    Run.note (pullContext r.settings.repository pull) .debug
      s!"Lint result for {path} is outside the change set; skipping"
    pure []
  | some file => r.reviewFindings pull commit path file findings

theorem obeys_reviewUnder {r : Reviewer} (hhost : r.host.remote = .codeHost)
    (hmodel : r.model.client.remote = .model) (pull : Int) (commit : Option String)
    (files : List ChangedFile) (path : String) (findings : List Finding) :
    (r.reviewUnder pull commit files path findings).Obeys
      (r.Reviews pull commit fun store => remarksUnder files store path findings) := by
  unfold reviewUnder remarksUnder
  cases fileNamed? files path with
  | none => exact obeys_nothing.after (Run.isQuiet_note _ _ _)
  | some file => exact obeys_reviewFindings hhost hmodel pull commit path file findings

theorem reviewResults_cons (r : Reviewer) (pull : Int) (commit : Option String)
    (files : List ChangedFile) (result : LintResult) (rest : List LintResult) :
    r.reviewResults pull commit files (result :: rest) =
      (Run.ofExcept .place (placeOfReported result.file r.settings.workspace) >>= fun path => do
        let cs ← r.reviewUnder pull commit files path result.findings
        let ds ← r.reviewResults pull commit files rest
        pure (cs ++ ds)) := by
  rw [reviewResults]
  refine congrArg _ (funext fun path => ?_)
  unfold reviewUnder
  cases fileNamed? files path <;> simp only [bind_assoc]

/-- Reviewing the results of the linter goes through the steps for the remarks on its findings. -/
theorem obeys_reviewResults {r : Reviewer} (hhost : r.host.remote = .codeHost)
    (hmodel : r.model.client.remote = .model) (pull : Int) (commit : Option String)
    (files : List ChangedFile) (results : List LintResult) :
    (r.reviewResults pull commit files results).Obeys
      (r.Reviews pull commit fun store => remarks r.settings.workspace files store results) := by
  induction results with
  | nil => exact obeys_nothing
  | cons result rest ih =>
    rw [reviewResults_cons]
    exact obeys_ofExcept_bind fun path =>
      obeys_append (obeys_reviewUnder hhost hmodel pull commit files path result.findings) ih

end Reviewer

end InlineReview
