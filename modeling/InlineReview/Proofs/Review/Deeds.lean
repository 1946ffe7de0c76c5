import InlineReview.Proofs.Review.Findings
import InlineReview.Proofs.Run.Heeding
import InlineReview.Review.Action

/-!
# What a review does

The deeds of the parts of a review: it lists the changed files and publishes check runs without
heeding its token, while it asks the model and places comments only as far as the token lets it,
and looks at the token before the linter and before each finding.

* `Reviewer.attends_fetchChangedFiles`, `Reviewer.attends_postSummary` — what pays no heed.
* `Linter.does_run` — the linter is started at most once, with nothing but entries after it.
* `Reviewer.goesRound_reviewFindings`, `Reviewer.goesRound_reviewResults` — the findings, round by
  round.
-/

namespace InlineReview

namespace Deed

/-- Is a deed a request for a page of the changed files? -/
def IsListing (d : Deed) : Prop :=
  ∃ q, d = .perform q ∧ q.remote = .codeHost ∧ q.purpose = .listing

/-- Is a deed a request that publishes a check run? -/
def IsPublishing (d : Deed) : Prop :=
  ∃ q run, d = .perform q ∧ q.remote = .codeHost ∧ q.purpose = .checkRun run

/-- Is a deed one that the linter needs? -/
def IsLinting (l : Linter) (d : Deed) : Prop := d = .clear l ∨ ∃ arguments, d = .lint l arguments

/-- Is a deed a look at the token, a question or a comment? -/
def IsReviewing (d : Deed) : Prop :=
  d = .poll ∨ ∃ timeout q, d = .ask timeout q ∧ q.purpose.IsRemark

end Deed

/-! ## What pays no heed -/

namespace CodeHost

variable {c : Client}

theorem attends_listFrom (hremote : c.remote = .codeHost) (fullName : String) (pull : Int)
    (fuel page : Nat) : (listFrom c fullName pull fuel page).Attends Deed.IsListing := by
  induction fuel generalizing page with
  | zero => exact (Run.isMute_pure []).attends _
  | succ fuel ih =>
    have hpage : (listPage c fullName pull page).perform.Attends Deed.IsListing := by
      refine (listPage c fullName pull page).attends_perform.imp ?_
      rintro d ⟨q, hrequest, rfl⟩
      obtain ⟨hq, hpurpose⟩ := purpose_listing hremote hrequest
      exact ⟨q, rfl, hq, hpurpose⟩
    rw [listFrom]
    refine hpage.bind fun entries => ?_
    split
    · exact (Run.isMute_pure entries).attends _
    · exact (ih (page + 1)).bind fun others => (Run.isMute_pure (entries ++ others)).attends _

theorem attends_listFiles (hremote : c.remote = .codeHost) (fullName : String) (pull : Int) :
    (listFiles c fullName pull).Attends Deed.IsListing := by
  rw [listFiles]
  refine (Run.isMute_get.attends _).bind fun w => ?_
  exact attends_listFrom hremote fullName pull (w.hostReplies.length + 1) 1

end CodeHost

namespace Reviewer

theorem attends_fetchChangedFiles {host : Client} (hremote : host.remote = .codeHost)
    (fullName : String) (pull : Int) (extensions : List String) :
    (fetchChangedFiles host fullName pull extensions).Attends Deed.IsListing := by
  have hlisting := Run.Attends.timed (pullContext fullName pull) "fetch_pr_files"
    (CodeHost.attends_listFiles hremote fullName pull)
  rw [fetchChangedFiles]
  refine ((Run.isMute_note _ _ _).attends _).bind fun _ => ?_
  refine (hlisting.tryCatch (fun failure => ?_) fun reason => ?_).bind fun entries => ?_
  · refine Run.IsMute.attends ?_ _
    cases failure with
    | host fault => exact (Run.isMute_note _ _ _).bind fun _ => Run.isMute_throw _
    | _ => exact Run.isMute_throw _
  · exact Run.does_passOn reason
  · refine ((Run.isMute_ofNoting _ _).attends _).bind fun files => ?_
    exact ((Run.isMute_note _ _ _).bind fun _ => Run.isMute_pure files).attends _

theorem attends_postSummary {host : Client} (hremote : host.remote = .codeHost) (s : Settings)
    (commit : Option String) (summary : Summary) :
    (postSummary host s commit summary).Attends Deed.IsPublishing := by
  unfold postSummary
  split
  · exact (Run.isMute_note _ _ _).attends _
  · exact (Run.isMute_note _ _ _).attends _
  · rename_i sha _
    refine Run.Attends.bind ?_ fun _ => (Run.isMute_pure ()).attends _
    refine (CodeHost.createCheckRun host s.repository _).attends_perform.imp ?_
    rintro d ⟨q, hrequest, rfl⟩
    obtain ⟨hq, hpurpose⟩ := purpose_checkRun hremote hrequest
    exact ⟨q, _, rfl, hq, hpurpose⟩

end Reviewer

/-! ## Questions and comments -/

/-- A guarded call whose request is a question or a comment. -/
theorem Call.attends_remark {α : Type} {call : Call α} (timeout : Option Seconds)
    (hremark : ∀ q, call.request = .ok q → q.purpose.IsRemark) :
    (Run.within true timeout call.start).Attends Deed.IsReviewing := by
  refine (call.attends_within timeout).imp ?_
  rintro d (rfl | ⟨q, hrequest, rfl⟩)
  · exact .inl rfl
  · exact .inr ⟨timeout, q, rfl, hremark q hrequest⟩

namespace Model

theorem attends_suggestFix {m : Model} (hremote : m.client.remote = .model)
    (message code : String) : (m.suggestFix true message code).Attends Deed.IsReviewing := by
  have hcall : (Run.within true (some m.timeout) (m.question message code).start).Attends
      Deed.IsReviewing := by
    refine Call.attends_remark (some m.timeout) fun q hrequest => ?_
    rw [(purpose_question hremote hrequest).2]
    trivial
  have htimed := hcall.timed (Context.bind [] [("model", .str m.name)]) "gemini_generate"
  have hanswer := htimed.map some
  rw [suggestFix]
  refine (hanswer.tryCatch (fun failure => ?_) fun reason => ?_).bind fun answer => ?_
  · refine Run.IsMute.attends ?_ _
    split
    · exact (Run.isMute_note _ _ _).bind fun _ => Run.isMute_pure none
    · exact Run.isMute_throw failure
  · exact Run.does_passOn reason
  · refine Run.IsMute.attends ?_ _
    split
    · exact Run.isMute_pure []
    · split
      · exact Run.isMute_throw _
      · exact Run.isMute_pure _
      · exact (Run.isMute_note _ _ _).bind fun _ =>
          (Run.isMute_note _ _ _).bind fun _ => Run.isMute_pure []

end Model

namespace Reviewer

variable {r : Reviewer}

theorem attends_postComment (hhost : r.host.remote = .codeHost) (pull : Int)
    (commit : Option String) (c : InlineComment) :
    (r.postComment pull commit c).Attends Deed.IsReviewing := by
  have hcall : (Run.within true (some (.real r.settings.timeout))
      (r.commentCall pull commit c).start).Attends Deed.IsReviewing := by
    refine Call.attends_remark _ fun q hrequest => ?_
    rw [(purpose_comment hhost hrequest).2]
    trivial
  rw [postComment]
  refine Run.Attends.tryCatch ?_ (fun failure => ?_) fun reason => ?_
  · exact hcall.bind fun _ => (Run.isMute_note _ _ _).attends _
  · refine Run.IsMute.attends ?_ _
    cases failure with
    | cancelled reason => exact Run.isMute_throw _
    | _ => exact Run.isMute_noteFailure _ _ _
  · exact Run.does_passOn reason

theorem attends_reviewFinding (hhost : r.host.remote = .codeHost)
    (hmodel : r.model.client.remote = .model) (pull : Int) (commit : Option String) (path : String)
    (file : ChangedFile) (finding : Finding) :
    (r.reviewFinding pull commit path file finding).Attends Deed.IsReviewing := by
  rw [reviewFinding]
  cases file.position? finding.line.toNat with
  | none => exact ((Run.isMute_note _ _ _).bind fun _ => Run.isMute_pure none).attends _
  | some position =>
    refine (Run.isMute_get.attends _).bind fun w => ?_
    refine ((Run.isMute_ofExcept _ _).attends _).bind fun code => ?_
    refine (Model.attends_suggestFix hmodel _ code).bind fun suggestions => ?_
    split
    · exact ((Run.isMute_note _ _ _).bind fun _ => Run.isMute_pure none).attends _
    · exact (attends_postComment hhost pull commit _).bind fun _ =>
        (Run.isMute_pure _).attends _

end Reviewer

/-! ## Rounds -/

/-- Deeds in a number of rounds, each of which begins with a look at the token; entries may stand
between the rounds. -/
inductive InRounds : Nat → List Deed → Prop
  | nil : InRounds 0 []
  | aside {n : Nat} {ds : List Deed} (d : Deed) (h : d.IsWrite) (rest : InRounds n ds) :
      InRounds n (d :: ds)
  | round {n : Nat} {ds : List Deed} (deeds : List Deed) (rest : InRounds n ds) :
      InRounds (n + 1) (.poll :: (deeds ++ ds))

namespace InRounds

theorem of_forall_isWrite {ds : List Deed} (h : ∀ d ∈ ds, d.IsWrite) : InRounds 0 ds := by
  induction ds with
  | nil => exact .nil
  | cons d ds ih => exact .aside d (h d (by simp)) (ih fun e he => h e (by simp [he]))

theorem append {m n : Nat} {ds es : List Deed} (h : InRounds m ds) (h' : InRounds n es) :
    InRounds (m + n) (ds ++ es) := by
  induction h with
  | nil =>
    rw [Nat.zero_add]
    exact h'
  | aside d hd rest ih => exact .aside d hd ih
  | @round k ds deeds rest ih =>
    have hround := InRounds.round deeds ih
    rwa [← List.append_assoc, Nat.add_right_comm] at hround

end InRounds

namespace Run

variable {α β : Type}

/-- Does an action heed the token, and go through a number of rounds if it succeeds? -/
def GoesRound (x : Run α) (n : Nat) : Prop :=
  x.Does fun w ds res => Heeds (stopReason? res) w ds ∧ (∀ d ∈ ds, d.IsWrite ∨ d.IsReviewing) ∧
    ∀ a, res = .ok a → InRounds n ds

theorem IsMute.goesRound {x : Run α} (hx : x.IsMute) : x.GoesRound 0 :=
  Does.imp hx fun _ _ _ h =>
    ⟨.of_forall_isWrite h, fun d hd => .inl (h d hd), fun _ _ => .of_forall_isWrite h⟩

/-- An action after a look at the token is one round. -/
theorem Attends.goesRound {x : Run α} (hx : x.Attends Deed.IsReviewing) :
    (checkCancelled >>= fun _ => x).GoesRound 1 := by
  refine (Does.checked hx fun _ _ _ _ h => h.1).imp ?_
  rintro w ds res ⟨hheeds, ⟨e, rfl, rfl⟩ | ⟨rest, rfl, -, hkinds⟩⟩
  · exact ⟨hheeds, by simp [Deed.IsReviewing], fun a ha => by cases ha⟩
  · refine ⟨hheeds, List.forall_mem_cons.2 ⟨.inr (.inl rfl), hkinds⟩, fun a _ => ?_⟩
    have hround := InRounds.round rest .nil
    rwa [List.append_nil] at hround

/-- The rounds of an action come before those of what follows its success. -/
theorem GoesRound.bind {m n : Nat} {x : Run α} {f : α → Run β} (hx : x.GoesRound m)
    (hf : ∀ a, (f a).GoesRound n) : (x >>= f).GoesRound (m + n) := by
  refine (Does.bind_heeds hx hf).imp ?_
  rintro w ds res ⟨hheeds, ⟨e, ⟨hkinds, -⟩, rfl⟩ |
    ⟨a, before, after, rfl, ⟨hkinds, hrounds⟩, hkinds', hrounds'⟩⟩
  · exact ⟨hheeds, hkinds, fun b hb => by cases hb⟩
  · exact ⟨hheeds, List.forall_mem_append.2 ⟨hkinds, hkinds'⟩,
      fun b hb => (hrounds a rfl).append (hrounds' b hb)⟩

/-- What follows a result goes through its rounds if there is a result. -/
theorem goesRound_ofExcept_bind {ε : Type} {n : Nat} {wrap : ε → Failure} {r : Except ε α}
    {f : α → Run β} (hf : ∀ a, r = .ok a → (f a).GoesRound n) :
    (ofExcept wrap r >>= f).GoesRound n := by
  cases r with
  | error e =>
    intro w
    exact ⟨[], rfl, trivial, by simp, fun b hb => by cases hb⟩
  | ok a =>
    rw [ofExcept_ok_bind]
    exact hf a rfl

end Run

/-! ## Findings -/

namespace Reviewer

variable {r : Reviewer}

theorem goesRound_reviewFindings (hhost : r.host.remote = .codeHost)
    (hmodel : r.model.client.remote = .model) (pull : Int) (commit : Option String) (path : String)
    (file : ChangedFile) (findings : List Finding) :
    (r.reviewFindings pull commit path file findings).GoesRound findings.length := by
  induction findings with
  | nil => exact (Run.isMute_pure []).goesRound
  | cons finding rest ih =>
    have hfinding := (attends_reviewFinding hhost hmodel pull commit path file finding).goesRound
    have hrest := fun comment : Option InlineComment =>
      ih.bind fun comments => (Run.isMute_pure (comment.toList ++ comments)).goesRound
    have hboth := hfinding.bind hrest
    rw [bind_assoc] at hboth
    rw [reviewFindings, List.length_cons, Nat.add_comm]
    exact hboth

/-- The findings of a result that are gone through: those in a changed file. -/
def visitedIn (workspace : Path) (files : List ChangedFile) (result : LintResult) :
    List Finding :=
  match placeOfReported result.file workspace with
  | .ok path => if (fileNamed? files path).isSome then result.findings else []
  | .error _ => []

/-- The findings of the linter that are gone through. -/
def visited (workspace : Path) (files : List ChangedFile) (results : List LintResult) :
    List Finding := results.flatMap (visitedIn workspace files)

theorem goesRound_reviewUnder (hhost : r.host.remote = .codeHost)
    (hmodel : r.model.client.remote = .model) (pull : Int) (commit : Option String)
    (files : List ChangedFile) {path : String} {result : LintResult}
    (hplace : placeOfReported result.file r.settings.workspace = .ok path) :
    (r.reviewUnder pull commit files path result.findings).GoesRound
      (visitedIn r.settings.workspace files result).length := by
  unfold reviewUnder visitedIn
  rw [hplace]
  cases hfile : fileNamed? files path with
  | none =>
    simp only [hfile]
    exact ((Run.isMute_note _ _ _).bind fun _ => Run.isMute_pure []).goesRound
  | some file =>
    simp only [hfile]
    exact goesRound_reviewFindings hhost hmodel pull commit path file result.findings

/-- The findings in changed files are gone through in one round each. -/
theorem goesRound_reviewResults (hhost : r.host.remote = .codeHost)
    (hmodel : r.model.client.remote = .model) (pull : Int) (commit : Option String)
    (files : List ChangedFile) (results : List LintResult) :
    (r.reviewResults pull commit files results).GoesRound
      (visited r.settings.workspace files results).length := by
  induction results with
  | nil => exact (Run.isMute_pure []).goesRound
  | cons result rest ih =>
    rw [reviewResults_cons, visited, List.flatMap_cons, List.length_append]
    refine Run.goesRound_ofExcept_bind fun path hplace => ?_
    have hresult := goesRound_reviewUnder hhost hmodel pull commit files hplace
    exact hresult.bind fun cs => ih.bind fun ds => (Run.isMute_pure (cs ++ ds)).goesRound

end Reviewer

/-! ## The linter -/

namespace Linter

/-- Is a deed nothing but entries, or the removal of the report? -/
def Prepares (l : Linter) (d : Deed) : Prop := d.IsWrite ∨ d = .clear l

/-- Deeds of which at most one starts the linter, with nothing but entries after it. -/
inductive Lints (l : Linter) : List Deed → Prop
  | unlinted {ds : List Deed} (h : ∀ d ∈ ds, d.IsWrite) : Lints l ds
  | linted {ds : List Deed} (arguments : List String) (h : ∀ d ∈ ds, d.IsWrite) :
      Lints l (.lint l arguments :: ds)
  | prepared {ds : List Deed} (d : Deed) (h : l.Prepares d) (rest : Lints l ds) : Lints l (d :: ds)

namespace Lints

variable {l : Linter} {ds es : List Deed}

theorem append (h : l.Lints ds) (hes : ∀ e ∈ es, e.IsWrite) : l.Lints (ds ++ es) := by
  induction h with
  | unlinted h => exact .unlinted (List.forall_mem_append.2 ⟨h, hes⟩)
  | linted arguments h => exact .linted arguments (List.forall_mem_append.2 ⟨h, hes⟩)
  | prepared d hd rest ih => exact .prepared d hd ih

/-- The linter is started under a token that is not cancelled, if it was not before. -/
theorem heeds (h : l.Lints ds) {w : World} (hcalm : w.token.isCancelled = false)
    (stopped : Option String) : Heeds stopped w ds := by
  induction h generalizing w with
  | unlinted h => exact .of_forall_isWrite h
  | linted arguments h => exact ⟨fun _ => hcalm, by simp [Deed.stops?], .of_forall_isWrite h⟩
  | prepared d hd rest ih =>
    rcases hd with hd | rfl
    · have hdone : (d.done w).token.isCancelled = false := by rwa [hd.token_done w]
      refine ⟨fun hguarded => absurd hguarded hd.not_isGuarded, fun reason hreason => ?_, ih hdone⟩
      rw [hd.stops?_eq] at hreason
      cases hreason
    · exact ⟨by simp [Deed.IsGuarded], by simp [Deed.stops?], ih hcalm⟩

/-- Nothing is done but what the linter needs. -/
theorem all (h : l.Lints ds) : ∀ d ∈ ds, d.IsWrite ∨ d.IsLinting l := by
  induction h with
  | unlinted h => exact fun d hd => .inl (h d hd)
  | linted arguments h =>
    intro d hd
    rcases List.mem_cons.1 hd with rfl | hd
    · exact .inr (.inr ⟨arguments, rfl⟩)
    · exact .inl (h d hd)
  | prepared e he rest ih =>
    intro d hd
    rcases List.mem_cons.1 hd with rfl | hd
    · exact he.imp_right .inl
    · exact ih d hd

end Lints

theorem does_start (l : Linter) (arguments : List String) :
    (l.start arguments).Does fun _ ds _ => ds = [.lint l arguments] := by
  intro w
  rw [outcome_start]
  exact ⟨[.lint l arguments], rfl, rfl⟩

/-- The report of an earlier run is removed, or all is left as it is. -/
theorem does_removeReport (l : Linter) :
    l.removeReport.Does fun w ds res =>
      (ds = [.clear l] ∧ res = .ok () ∧ l.removalFault? w.files = none) ∨
        ds = [] ∧ ∃ failure, res = .error failure ∧ l.removalFault? w.files = some failure := by
  intro w
  rw [outcome_removeReport]
  cases hremoval : l.removalFault? w.files with
  | none => exact ⟨[.clear l], rfl, .inl ⟨rfl, rfl, hremoval⟩⟩
  | some failure => exact ⟨[], rfl, .inr ⟨rfl, failure, rfl, hremoval⟩⟩

theorem isMute_noteStatus (ending : Ending) : (noteStatus ending).IsMute := by
  unfold noteStatus
  split
  · refine (Run.isMute_note _ _ _).bind fun _ => ?_
    split
    · exact Run.isMute_note _ _ _
    · exact Run.isMute_pure ()
  · exact Run.isMute_pure ()

theorem isMute_readReport (l : Linter) : l.readReport.IsMute := by
  rw [readReport]
  refine Run.isMute_get.bind fun w => (Run.isMute_ofExcept _ _).bind fun report => ?_
  refine (Run.isMute_ofNoting _ _).bind fun results => ?_
  exact (Run.isMute_note _ _ _).bind fun _ => Run.isMute_pure results

/-- Running the linter starts it at most once. -/
theorem does_run (l : Linter) (files : List String) :
    (l.run files).Does fun _ ds _ => l.Lints ds := by
  unfold run
  by_cases hempty : (lintable files).isEmpty = true
  · simp only [hempty, if_true]
    refine Run.Does.imp ((Run.isMute_note _ _ _).bind fun _ => Run.isMute_pure []) ?_
    exact fun _ _ _ h => .unlinted h
  · simp only [if_neg hempty]
    have hread := fun ending : Ending =>
      (isMute_noteStatus ending).bind fun _ => l.isMute_readReport
    have hlint : (Run.timed [] "eslint" (l.start (l.commandFor (lintable files))) >>= fun ending =>
        noteStatus ending >>= fun _ => l.readReport).Does fun _ ds _ => l.Lints ds := by
      refine (((l.does_start (l.commandFor (lintable files))).timed [] "eslint").bind hread).imp ?_
      rintro w ds res (⟨e, ⟨started, deeds, ended, rfl, rfl⟩, rfl⟩ |
        ⟨ending, before, after, rfl, ⟨started, deeds, ended, rfl, rfl⟩, hafter⟩)
      · exact .prepared _ (.inl trivial) (.linted _ (by simp [Deed.IsWrite]))
      · have hbefore : l.Lints (.write started :: ([.lint l (l.commandFor (lintable files))] ++
            [.write ended])) := .prepared _ (.inl trivial) (.linted _ (by simp [Deed.IsWrite]))
        exact hbefore.append hafter
    have hnoted := hlint.noted [] .info
      s!"Running ESLint on {(lintable files).length} file(s)..."
    refine (l.does_removeReport.bind fun _ => hnoted).imp ?_
    rintro w ds res (⟨e, ⟨rfl, -⟩ | ⟨rfl, -⟩, rfl⟩ |
      ⟨_, before, after, rfl, ⟨rfl, -⟩ | ⟨rfl, -⟩, entries, rest, rfl, hlints⟩)
    · exact .prepared _ (.inr rfl) (.unlinted (by simp))
    · exact .unlinted (by simp)
    · exact .prepared _ (.inr rfl) (.prepared _ (.inl trivial) hlints)
    · exact .prepared _ (.inl trivial) hlints

end Linter

end InlineReview
