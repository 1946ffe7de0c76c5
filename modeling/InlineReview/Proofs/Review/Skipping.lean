import InlineReview.Proofs.Review.Deeds
import InlineReview.Proofs.Run.Keeping

/-!
# Results that are skipped

A result of the linter is skipped if it is under a path that no changed file has, and an entry tells
so.  No other part of a review writes such an entry.  What a review asks and comments concerns the
findings of results that are taken for a changed file.

* `Entry.IsSkip` — the entries that tell of it.
* `Reviewer.takenFor?` — the changed file for which a result is taken.
* `Reviewer.keeps_reviewResults` — what is asked and commented, and that nothing is skipped if every
  result is taken for a changed file.
-/

namespace InlineReview

open Text

variable {K : Deed → Prop}

/-! ## Entries -/

/-- Does an entry tell that a result is skipped, since no changed file has its path? -/
def Entry.IsSkip (e : Entry) : Prop :=
  e.level = .debug ∧
    ∃ path : String, e.message = s!"Lint result for {path} is outside the change set; skipping"

/-- Does an entry tell of something else? -/
def Entry.TellsElse (e : Entry) : Prop := ¬ e.IsSkip

namespace Entry

variable {level : Level} {message : String} {context : Context}

theorem tellsElse_of_level (h : level ≠ .debug) : TellsElse ⟨level, message, context⟩ :=
  fun hskip => h hskip.1

/-- An entry that begins otherwise. -/
theorem tellsElse_of_head {c : Char} (h : message.toList.head? = some c) (hc : c ≠ 'L') :
    TellsElse ⟨level, message, context⟩ := by
  rintro ⟨-, path, hpath⟩
  have hmessage : message = s!"Lint result for {path} is outside the change set; skipping" := hpath
  have hlead : message.toList.head? = some 'L' := by
    rw [hmessage]
    simp only [String.toList_append]
    rfl
  exact hc (Option.some.inj (h.symm.trans hlead))

end Entry

namespace Run

variable {α : Type} {x : Run α}

/-- An action that is timed tells of something else if it does so alone. -/
theorem Keeps.timedElse (c : Context) (operation : String) (hx : x.Keeps Entry.TellsElse K) :
    (Run.timed c operation x).Keeps Entry.TellsElse K := by
  have hstarted : (s!"Starting {operation}").toList.head? = some 'S' := by
    simp only [String.toList_append]
    rfl
  have hcompleted : (s!"Completed {operation} in {ownTime}").toList.head? = some 'C' := by
    simp only [String.toList_append]
    rfl
  exact hx.timed (Entry.tellsElse_of_head hstarted (by decide))
    (Entry.tellsElse_of_head hcompleted (by decide)) fun _ => Entry.tellsElse_of_level (by decide)

end Run

/-! ## What is fetched and published -/

namespace CodeHost

variable {c : Client}

theorem keeps_listFrom {J : Entry → Prop} (hremote : c.remote = .codeHost)
    (hlisting : ∀ d : Deed, d.IsListing → K d) (fullName : String) (pull : Int)
    (fuel page : Nat) : (listFrom c fullName pull fuel page).Keeps J K := by
  induction fuel generalizing page with
  | zero => exact Run.keeps_pure []
  | succ fuel ih =>
    have hpage : (listPage c fullName pull page).perform.Keeps J K :=
      Run.keeps_perform fun q hrequest => by
        obtain ⟨hq, hpurpose⟩ := purpose_listing hremote hrequest
        exact hlisting _ ⟨q, rfl, hq, hpurpose⟩
    rw [listFrom]
    refine hpage.bind fun entries => ?_
    split
    · exact Run.keeps_pure entries
    · exact (ih (page + 1)).bind fun others => Run.keeps_pure (entries ++ others)

end CodeHost

namespace ChangedFile

theorem writes_ofPatch (patch : String) : (PositionMap.ofPatch patch).Writes Entry.TellsElse := by
  unfold PositionMap.ofPatch
  split
  · exact Noting.writes_pure []
  · generalize PatchLine.ofLines (PatchLine.splitL patch.toList) = classified
    obtain ⟨ls, fault?⟩ := classified
    refine (Noting.Writes.forIn (fun w _ => ?_) _ _).bind fun _ => ?_
    · exact (Noting.writes_ofExcept _ _).bind fun _ =>
        (Noting.writes_note (Entry.tellsElse_of_level (by decide))).bind fun _ =>
          Noting.writes_pure _
    · cases fault? with
      | none => exact Noting.writes_pure _
      | some fault => exact Noting.writes_throw fault

theorem writes_positionsOf (patch : Json) : (positionsOf patch).Writes Entry.TellsElse := by
  unfold positionsOf
  split
  · exact Noting.writes_pure []
  · split
    · exact (writes_ofPatch _).adapt _
    · exact Noting.writes_throw _

theorem writes_ofEntry (extensions : List String) (entry : Json) :
    (ofEntry extensions entry).Writes Entry.TellsElse := by
  unfold ofEntry
  refine (Noting.writes_ofExcept _ _).bind fun filename => ?_
  split
  · exact (Noting.writes_note (Entry.tellsElse_of_level (by decide))).bind fun _ =>
      Noting.writes_pure _
  · split
    · split
      · exact Noting.writes_pure _
      · exact (Noting.writes_ofExcept _ _).bind fun patch =>
          (writes_positionsOf patch).bind fun _ => Noting.writes_pure _
    · exact Noting.writes_throw _

theorem writes_ofEntries (extensions : List String) (entries : List Json) :
    (ofEntries extensions entries).Writes Entry.TellsElse := by
  induction entries with
  | nil => exact Noting.writes_pure _
  | cons entry rest ih =>
    rw [ofEntries]
    refine (writes_ofEntry extensions entry).bind fun listed => ?_
    cases listed with
    | other => exact ih
    | _ => exact ih.bind fun _ => Noting.writes_pure _

theorem writes_ofListing (listing : Json) (extensions : List String) :
    (ofListing listing extensions).Writes Entry.TellsElse := by
  unfold ofListing
  refine (Noting.writes_ofExcept _ _).bind fun entries =>
    (writes_ofEntries extensions entries).bind fun found => ?_
  obtain ⟨files, unnamed⟩ := found
  have hhead : (s!"Kept {files.length} source file(s) from {entries.length} changed file entries"
      ).toList.head? = some 'K' := by
    simp only [String.toList_append]
    rfl
  have hkept : Entry.TellsElse ⟨.debug, _, []⟩ := Entry.tellsElse_of_head hhead (by decide)
  have hskipped : Entry.TellsElse ⟨.warning,
      s!"Skipped {unnamed} file(s) due to missing filename", []⟩ :=
    Entry.tellsElse_of_level (by decide)
  have hend := (Noting.writes_note (ε := ChangeFault) hkept).bind fun _ => Noting.writes_pure files
  dsimp only
  split
  · exact (Noting.writes_note hskipped).bind fun _ => hend
  · exact hend

end ChangedFile

namespace Reviewer

theorem keeps_fetchChangedFiles {host : Client} (hremote : host.remote = .codeHost)
    (hlisting : ∀ d : Deed, d.IsListing → K d) (fullName : String) (pull : Int)
    (extensions : List String) :
    (fetchChangedFiles host fullName pull extensions).Keeps Entry.TellsElse K := by
  have hlist : (CodeHost.listFiles host fullName pull).Keeps Entry.TellsElse K := by
    rw [CodeHost.listFiles]
    exact Run.keeps_get.bind fun w => CodeHost.keeps_listFrom hremote hlisting _ _ _ _
  rw [fetchChangedFiles]
  refine (Run.keeps_note (Entry.tellsElse_of_level (by decide))).bind fun _ => ?_
  refine Run.Keeps.bind ((hlist.timedElse _ _).tryCatch fun failure => ?_) fun entries => ?_
  · cases failure with
    | host fault =>
      exact (Run.keeps_note (Entry.tellsElse_of_level (by decide))).bind fun _ => Run.keeps_throw _
    | _ => exact (Run.keeps_pure ()).bind fun _ => Run.keeps_throw _
  · refine (Run.keeps_ofNoting _ (ChangedFile.writes_ofListing _ _)).bind fun files => ?_
    exact (Run.keeps_note (Entry.tellsElse_of_level (by decide))).bind fun _ => Run.keeps_pure files

/-- A summary is published on the commit, if there is one with a name. -/
theorem keeps_postSummary {host : Client} (hremote : host.remote = .codeHost) (s : Settings)
    (commit : Option String) (summary : Summary)
    (hpublishing : ∀ q run sha, commit = some sha → sha ≠ "" → run.commit = some sha →
      q.remote = .codeHost → q.purpose = .checkRun run → K (.perform q)) :
    (postSummary host s commit summary).Keeps Entry.TellsElse K := by
  unfold postSummary
  split
  · exact Run.keeps_note (Entry.tellsElse_of_level (by decide))
  · exact Run.keeps_note (Entry.tellsElse_of_level (by decide))
  · rename_i sha hsha
    refine Run.Keeps.bind (Run.keeps_perform fun q hrequest => ?_) fun _ => Run.keeps_pure ()
    obtain ⟨hq, hpurpose⟩ := purpose_checkRun hremote hrequest
    exact hpublishing q _ sha rfl hsha rfl hq hpurpose

end Reviewer

/-! ## The linter -/

namespace LintResult

theorem writes_ofEntries (entries : List Json) :
    (ofEntries entries).Writes Entry.TellsElse := by
  induction entries with
  | nil => exact Noting.writes_pure []
  | cons entry rest ih =>
    rw [ofEntries]
    split
    · exact (Noting.writes_ofExcept _ _).bind fun _ =>
        (Noting.writes_note (Entry.tellsElse_of_level (by decide))).bind fun _ => ih
    · exact (Noting.writes_ofExcept _ _).bind fun _ => ih.bind fun _ => Noting.writes_pure _

theorem writes_ofReport (report : Json) : (ofReport report).Writes Entry.TellsElse := by
  cases report with
  | arr entries => exact writes_ofEntries entries
  | _ => exact Noting.writes_throw _

end LintResult

namespace Linter

theorem keeps_noteStatus (ending : Ending) : (noteStatus ending).Keeps Entry.TellsElse K := by
  have hhead : (s!"ESLint stderr: {trim ending.complaints}").toList.head? = some 'E' := by
    simp only [String.toList_append]
    rfl
  unfold noteStatus
  split
  · refine (Run.keeps_note (Entry.tellsElse_of_level (by decide))).bind fun _ => ?_
    split
    · exact Run.keeps_note (Entry.tellsElse_of_head hhead (by decide))
    · exact Run.keeps_pure ()
  · exact Run.keeps_pure ()

theorem keeps_readReport (l : Linter) : l.readReport.Keeps Entry.TellsElse K := by
  rw [readReport]
  refine Run.keeps_get.bind fun w => (Run.keeps_ofExcept _ _).bind fun report => ?_
  refine (Run.keeps_ofNoting _ (LintResult.writes_ofReport report)).bind fun results => ?_
  exact (Run.keeps_note (Entry.tellsElse_of_level (by decide))).bind fun _ =>
    Run.keeps_pure results

theorem keeps_start {J : Entry → Prop} (l : Linter) {arguments : List String}
    (hlint : K (.lint l arguments)) : (l.start arguments).Keeps J K :=
  (l.does_start arguments).imp fun _ ds _ h => by simpa [h, Deed.IsWithin] using hlint

/-- Running the linter clears its report and starts it on the files that are linted. -/
theorem keeps_run (l : Linter) {files : List String} (hclear : K (.clear l))
    (hlint : K (.lint l (l.commandFor (lintable files)))) :
    (l.run files).Keeps Entry.TellsElse K := by
  have hremove : l.removeReport.Keeps Entry.TellsElse K := by
    refine l.does_removeReport.imp ?_
    rintro w ds res (⟨rfl, -⟩ | ⟨rfl, -⟩)
    · simpa [Deed.IsWithin] using hclear
    · simp
  rw [run]
  split
  · exact (Run.keeps_note (Entry.tellsElse_of_level (by decide))).bind fun _ => Run.keeps_pure []
  · refine hremove.bind fun _ => ?_
    refine (Run.keeps_note (Entry.tellsElse_of_level (by decide))).bind fun _ => ?_
    refine ((l.keeps_start hlint).timedElse _ _).bind fun ending => ?_
    exact (keeps_noteStatus ending).bind fun _ => l.keeps_readReport

end Linter

/-! ## Questions and comments -/

/-- A failure is told of at a level of its own. -/
theorem Run.keeps_noteFailure (c : Context) (m : String) (error : Option String) :
    (noteFailure c m error).Keeps Entry.TellsElse K := by
  cases error <;> exact keeps_note (Entry.tellsElse_of_level (by decide))

/-- A question asks what it is for. -/
theorem Model.keeps_suggestFix {m : Model} (hremote : m.client.remote = .model)
    {message code : String} (hpoll : K .poll)
    (hask : ∀ timeout q, q.remote = .model → q.purpose = .question (prompt message code) →
      K (.ask timeout q)) :
    (m.suggestFix true message code).Keeps Entry.TellsElse K := by
  have hcall : (Run.within true (some m.timeout) (m.question message code).start).Keeps
      Entry.TellsElse K := Run.keeps_within hpoll fun q hrequest => by
    obtain ⟨hq, hpurpose⟩ := purpose_question hremote hrequest
    exact hask _ q hq hpurpose
  rw [suggestFix]
  refine Run.Keeps.bind (((hcall.timedElse _ _).map some).tryCatch fun failure => ?_)
    fun answer => ?_
  · split
    · exact (Run.keeps_note (Entry.tellsElse_of_level (by decide))).bind fun _ =>
        Run.keeps_pure none
    · exact Run.keeps_throw failure
  · split
    · exact Run.keeps_pure []
    · split
      · exact Run.keeps_throw _
      · exact Run.keeps_pure _
      · have hhead : ∀ shown : String,
            (s!"Unparseable Gemini response: {shown}").toList.head? = some 'U' := fun shown => by
          simp only [String.toList_append]
          rfl
        refine (Run.keeps_note (Entry.tellsElse_of_level (by decide))).bind fun _ => ?_
        exact (Run.keeps_note (Entry.tellsElse_of_head (hhead _) (by decide))).bind fun _ =>
          Run.keeps_pure []

namespace Reviewer

variable {r : Reviewer}

/-- A comment is posted under its own path. -/
theorem keeps_postComment (hhost : r.host.remote = .codeHost) {pull : Int}
    {commit : Option String} {c : InlineComment} (hpoll : K .poll)
    (hask : ∀ timeout q, q.remote = .codeHost → q.purpose = .comment commit c →
      K (.ask timeout q)) :
    (r.postComment pull commit c).Keeps Entry.TellsElse K := by
  have hcall : (Run.within true (some (.real r.settings.timeout))
      (r.commentCall pull commit c).start).Keeps Entry.TellsElse K :=
    Run.keeps_within hpoll fun q hrequest => by
      obtain ⟨hq, hpurpose⟩ := purpose_comment hhost hrequest
      exact hask _ q hq hpurpose
  rw [postComment]
  refine Run.Keeps.tryCatch ?_ fun failure => ?_
  · exact hcall.bind fun _ => Run.keeps_note (Entry.tellsElse_of_level (by decide))
  · cases failure with
    | cancelled reason => exact Run.keeps_throw _
    | _ => exact Run.keeps_noteFailure _ _ _

end Reviewer

/-! ## Findings -/

/-- Does a request ask about one of some findings, or comment under their path? -/
inductive Request.Concerns (commit : Option String) (path : String) (findings : List Finding)
    (q : Request) : Prop
  | question {finding : Finding} {code : String} (hq : q.remote = .model) (h : finding ∈ findings)
      (hpurpose : q.purpose = .question (prompt finding.message.text code))
  | comment {c : InlineComment} (hq : q.remote = .codeHost) (h : c.path = path)
      (hpurpose : q.purpose = .comment commit c)

/-- Is a deed a look at the token, or a request that concerns some findings? -/
def Deed.Concerns (commit : Option String) (path : String) (findings : List Finding)
    (d : Deed) : Prop :=
  d = .poll ∨ ∃ timeout q, d = .ask timeout q ∧ q.Concerns commit path findings

theorem Deed.Concerns.mono {commit : Option String} {path : String}
    {findings more : List Finding} {d : Deed} (h : d.Concerns commit path findings)
    (hsub : findings ⊆ more) : d.Concerns commit path more := by
  rcases h with rfl | ⟨timeout, q, rfl, ⟨hq, hfinding, hpurpose⟩ | ⟨hq, hpath, hpurpose⟩⟩
  · exact .inl rfl
  · exact .inr ⟨timeout, q, rfl, .question hq (hsub hfinding) hpurpose⟩
  · exact .inr ⟨timeout, q, rfl, .comment hq hpath hpurpose⟩

namespace Reviewer

variable {r : Reviewer}

/-- Reviewing a finding asks about it, and comments under its path. -/
theorem keeps_reviewFinding (hhost : r.host.remote = .codeHost)
    (hmodel : r.model.client.remote = .model) (pull : Int) (commit : Option String) (path : String)
    (file : ChangedFile) (finding : Finding) :
    (r.reviewFinding pull commit path file finding).Keeps Entry.TellsElse
      (Deed.Concerns commit path [finding]) := by
  rw [reviewFinding]
  cases file.position? finding.line.toNat with
  | none =>
    have hhead : "Finding is outside the diff; skipping".toList.head? = some 'F' := rfl
    exact (Run.keeps_note (Entry.tellsElse_of_head hhead (by decide))).bind fun _ =>
      Run.keeps_pure none
  | some position =>
    refine Run.keeps_get.bind fun w => (Run.keeps_ofExcept _ _).bind fun code => ?_
    refine (Model.keeps_suggestFix hmodel (.inl rfl) fun timeout q hq hpurpose =>
      .inr ⟨timeout, q, rfl, .question hq (List.mem_singleton_self _) hpurpose⟩).bind
        fun suggestions => ?_
    split
    · exact (Run.keeps_note (Entry.tellsElse_of_level (by decide))).bind fun _ =>
        Run.keeps_pure none
    · exact (keeps_postComment hhost (.inl rfl) fun timeout q hq hpurpose =>
        .inr ⟨timeout, q, rfl, .comment hq rfl hpurpose⟩).bind fun _ => Run.keeps_pure _

theorem keeps_reviewFindings (hhost : r.host.remote = .codeHost)
    (hmodel : r.model.client.remote = .model) (pull : Int) (commit : Option String) (path : String)
    (file : ChangedFile) (findings : List Finding) :
    (r.reviewFindings pull commit path file findings).Keeps Entry.TellsElse
      (Deed.Concerns commit path findings) := by
  induction findings with
  | nil => exact Run.keeps_pure []
  | cons finding rest ih =>
    have hfirst : (r.reviewFinding pull commit path file finding).Keeps Entry.TellsElse
        (Deed.Concerns commit path (finding :: rest)) :=
      (keeps_reviewFinding hhost hmodel pull commit path file finding).imp (fun _ h => h)
        fun _ h => h.mono (by simp)
    have hrest := ih.imp (fun _ h => h) fun _ h => h.mono (List.subset_cons_self finding rest)
    rw [reviewFindings]
    refine (Run.keeps_checkCancelled (.inl rfl)).bind fun _ => hfirst.bind fun comment => ?_
    exact hrest.bind fun comments => Run.keeps_pure _

/-! ## Results -/

/-- The changed file for which a result of the linter is taken. -/
def takenFor? (workspace : Path) (files : List ChangedFile) (result : LintResult) :
    Option ChangedFile :=
  match placeOfReported result.file workspace with
  | .ok path => fileNamed? files path
  | .error _ => none

/-- Are results all taken for changed files? -/
def AreTaken (workspace : Path) (files : List ChangedFile) (results : List LintResult) : Prop :=
  ∀ result ∈ results, (takenFor? workspace files result).isSome = true

theorem filename_of_fileNamed? {files : List ChangedFile} {name : String} {file : ChangedFile}
    (h : fileNamed? files name = some file) : file.filename = name ∧ file ∈ files := by
  refine ⟨by simpa using List.find?_some h, ?_⟩
  simpa using List.mem_of_find?_eq_some h

theorem exists_place_of_takenFor? {workspace : Path} {files : List ChangedFile}
    {result : LintResult} {file : ChangedFile} (h : takenFor? workspace files result = some file) :
    ∃ path, placeOfReported result.file workspace = .ok path ∧
      fileNamed? files path = some file := by
  unfold takenFor? at h
  split at h
  · exact ⟨_, ‹_›, h⟩
  · cases h

/-- Is a deed a look at the token, or a request that concerns the findings of a result that is taken
for a changed file? -/
def ConcernsResults (r : Reviewer) (commit : Option String) (files : List ChangedFile)
    (results : List LintResult) (d : Deed) : Prop :=
  d = .poll ∨ ∃ timeout q, d = .ask timeout q ∧ ∃ result ∈ results, ∃ file,
    takenFor? r.settings.workspace files result = some file ∧
      q.Concerns commit file.filename result.findings

/-- Reviewing results asks about their findings, and comments on the files for which they are
taken.  If each of them is taken for one, none is told to be skipped. -/
theorem keeps_reviewResults (hhost : r.host.remote = .codeHost)
    (hmodel : r.model.client.remote = .model) (pull : Int) (commit : Option String)
    (files : List ChangedFile) {results : List LintResult}
    (htaken : AreTaken r.settings.workspace files results) :
    (r.reviewResults pull commit files results).Keeps Entry.TellsElse
      (r.ConcernsResults commit files results) := by
  induction results with
  | nil => exact Run.keeps_pure []
  | cons result rest ih =>
    have hrest : (r.reviewResults pull commit files rest).Keeps Entry.TellsElse
        (r.ConcernsResults commit files (result :: rest)) := by
      refine (ih fun other hother => htaken other (by simp [hother])).imp (fun _ h => h) ?_
      rintro d (rfl | ⟨timeout, q, rfl, other, hother, hconcerns⟩)
      · exact .inl rfl
      · exact .inr ⟨timeout, q, rfl, other, by simp [hother], hconcerns⟩
    obtain ⟨file, hfile⟩ := Option.isSome_iff_exists.1 (htaken result (by simp))
    obtain ⟨path, hplace, hnamed⟩ := exists_place_of_takenFor? hfile
    have hhere : (r.reviewUnder pull commit files path result.findings).Keeps Entry.TellsElse
        (r.ConcernsResults commit files (result :: rest)) := by
      rw [reviewUnder, hnamed]
      refine (keeps_reviewFindings hhost hmodel pull commit path file _).imp (fun _ h => h) ?_
      rintro d (rfl | ⟨timeout, q, rfl, hconcerns⟩)
      · exact .inl rfl
      · rw [← (filename_of_fileNamed? hnamed).1] at hconcerns
        exact .inr ⟨timeout, q, rfl, result, by simp, file, hfile, hconcerns⟩
    rw [reviewResults_cons, hplace, Run.ofExcept_ok_bind]
    exact hhere.bind fun cs => hrest.bind fun ds => Run.keeps_pure (cs ++ ds)

end Reviewer

end InlineReview
