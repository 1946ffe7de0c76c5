import InlineReview.Lint.Linter
import InlineReview.Proofs.Json.Files
import InlineReview.Proofs.Lint.Reports
import InlineReview.Proofs.Lint.StaleReports
import InlineReview.Proofs.Run.Outcome

/-!
# Reports that cannot be read

Whoever reads the report gets its results, or a failure of the linter that says what is wrong with
the report.  Two kinds of reports bring another failure: those of which reading stops, and those
that are read and hold, under a path, messages that are no array of objects.

* `Linter.result_readReport` — what reading comes to, from the file and from the entries in it.
* `Linter.IsUnreadable` — the reports of the two kinds.
* `Linter.readReport_handled_iff` — there is no third kind.
-/

namespace InlineReview

open Text

namespace LintResult

variable {report : Json}

/-- Does a report hold, under a path, messages that are no array of objects? -/
def IsMisshapen (report : Json) : Prop :=
  ∃ entries, report = .arr entries ∧
    ∃ entry ∈ entries, (fileOf? entry).isSome = true ∧ ¬ HasMessages entry

section Documents

variable {s : List Char}

/-- A misshapen document is told by a fault of shape. -/
theorem outcome_ofReport_of_isMisshapen (hread : Json.readL s = .ok report)
    (h : IsMisshapen report) : ∃ fault, (ofReport report).outcome.1 = .error (.shape fault) := by
  obtain ⟨entries, rfl, hunread⟩ := h
  obtain ⟨fault, es, htells⟩ := tells_ofEntries_of_unread (Json.fits_of_mem_readL hread) hunread
  exact ⟨fault, congrArg Prod.fst htells.outcome_eq⟩

/-- Any other document has results if it is an array. -/
theorem outcome_ofReport_of_not_isMisshapen (hread : Json.readL s = .ok report)
    (h : ¬ IsMisshapen report) : (ofReport report).outcome.1 = .error .notArray ∨
      ∃ results, (ofReport report).outcome.1 = .ok results := by
  cases report with
  | arr entries =>
    have hmessages : ∀ entry ∈ entries, (fileOf? entry).isSome = true → HasMessages entry := by
      intro entry hentry hfile
      by_contra hunread
      exact h ⟨entries, rfl, entry, hentry, hfile, hunread⟩
    have hentries := isRead_of_readL hread hmessages
    exact .inr ⟨_, congrArg Prod.fst (tells_ofEntries hentries).outcome_eq⟩
  | _ => exact .inl rfl

end Documents

end LintResult

namespace Linter

variable {l : Linter} {store : FileStore} {w : World}

/-- Reading the report takes its value and then its results. -/
theorem result_readReport (l : Linter) (w : World) :
    (l.readReport.outcome w).1 = match l.reportValue w.files with
      | .error e => .error e
      | .ok report => (LintResult.ofReport report).outcome.1.mapError Failure.ofReportFault := by
  rw [readReport, Run.outcome_bind_ok (Run.outcome_get w)]
  cases l.reportValue w.files with
  | error e => rfl
  | ok report =>
    rw [Run.ofExcept_ok_bind, Run.outcome_bind, Run.outcome_ofNoting]
    show _ = (LintResult.ofReport report).outcome.1.mapError Failure.ofReportFault
    generalize (LintResult.ofReport report).outcome = ended
    obtain ⟨fault | results, entries⟩ := ended <;> rfl

/-- Is a report one of which neither results nor a failure of the linter come? -/
inductive IsUnreadable (l : Linter) (store : FileStore) : Prop
  /-- Reading the file stops. -/
  | stops (h : store.StopsReading l.report)
  /-- The report in the file is misshapen. -/
  | misshapen {s : List Char} {report : Json}
      (hoctets : store.octets l.report = .ok (s.flatMap String.utf8EncodeChar))
      (hread : Json.readL (unifyNewlines s) = .ok report) (h : LintResult.IsMisshapen report)

theorem isUnreadable_iff : l.IsUnreadable store ↔ store.StopsReading l.report ∨
    ∃ t report, store.text l.report = .ok t ∧ Json.readL t = .ok report ∧
      LintResult.IsMisshapen report := by
  constructor
  · rintro (hstops | ⟨hoctets, hread, hmisshapen⟩)
    · exact .inl hstops
    · exact .inr ⟨_, _, FileStore.text_eq_ok_iff.2 ⟨_, hoctets, rfl⟩, hread, hmisshapen⟩
  · rintro (hstops | ⟨t, report, htext, hread, hmisshapen⟩)
    · exact .stops hstops
    · obtain ⟨s, hoctets, rfl⟩ := FileStore.text_eq_ok_iff.1 htext
      exact .misshapen hoctets hread hmisshapen

/-- Reading the report gives results, or fails with a failure of the linter. -/
def IsHandled (res : Except Failure (List LintResult)) : Prop :=
  (∃ results, res = .ok results) ∨ ∃ fault, res = .error (.lint fault)

theorem isHandled_error_iff {e : Failure} :
    IsHandled (.error e) ↔ ∃ fault, e = .lint fault := by
  simp [IsHandled]

/-- Of a report that is no document no results come. -/
theorem isHandled_of_readL_error {t : List Char} {fault : Json.ReadFault}
    (htext : w.files.text l.report = .ok t) (hread : Json.readL t = .error fault) :
    IsHandled (l.readReport.outcome w).1 ↔ ∀ passed, fault ≠ .limit passed := by
  rw [result_readReport, reportValue]
  simp only [htext, hread]
  cases fault with
  | malformed m => exact iff_of_true (.inr ⟨_, rfl⟩) (by simp)
  | limit passed => simp [isHandled_error_iff]

/-- Of a document there are results, or a failure of the linter, unless it is misshapen. -/
theorem isHandled_of_readL_ok {t : List Char} {report : Json}
    (htext : w.files.text l.report = .ok t) (hread : Json.readL t = .ok report) :
    IsHandled (l.readReport.outcome w).1 ↔ ¬ LintResult.IsMisshapen report := by
  rw [result_readReport, reportValue]
  simp only [htext, hread]
  by_cases hmisshapen : LintResult.IsMisshapen report
  · obtain ⟨fault, hfault⟩ := LintResult.outcome_ofReport_of_isMisshapen hread hmisshapen
    rw [hfault]
    refine iff_of_false (fun h => ?_) (not_not.2 hmisshapen)
    obtain ⟨other, hother⟩ := isHandled_error_iff.1 h
    cases hother
  · obtain hnone | ⟨results, hresults⟩ :=
      LintResult.outcome_ofReport_of_not_isMisshapen hread hmisshapen
    · rw [hnone]
      exact iff_of_true (.inr ⟨_, rfl⟩) hmisshapen
    · rw [hresults]
      exact iff_of_true (.inl ⟨_, rfl⟩) hmisshapen

/-- A report gives results or a failure of the linter exactly if it is not of the two kinds. -/
theorem readReport_handled_iff (l : Linter) (w : World) :
    IsHandled (l.readReport.outcome w).1 ↔ ¬ l.IsUnreadable w.files := by
  rw [isUnreadable_iff, FileStore.stopsReading_iff]
  cases htext : w.files.text l.report with
  | error fault =>
    rw [result_readReport, reportValue, htext]
    cases fault with
    | file fault => exact iff_of_true (.inr ⟨_, rfl⟩) (by simp)
    | decoding fault => simp [isHandled_error_iff]
  | ok t =>
    cases hread : Json.readL t with
    | error fault => rw [isHandled_of_readL_error htext hread]; cases fault <;> simp [hread]
    | ok report => rw [isHandled_of_readL_ok htext hread]; simp [hread]

/-- A world in which the report holds an octet that begins no character. -/
def garbledWorld : World where
  files := [(sampleLinter.report.place, .content [0xFF])]

/-- Such a report is not handled. -/
theorem readReport_garbledWorld :
    (sampleLinter.readReport.outcome garbledWorld).1 =
        .error (.decoding ⟨"utf-8", 0, [0xFF], .invalidStart⟩) ∧
      ¬ IsHandled (sampleLinter.readReport.outcome garbledWorld).1 := by
  have hended : (sampleLinter.readReport.outcome garbledWorld).1 =
      .error (.decoding ⟨"utf-8", 0, [0xFF], .invalidStart⟩) := rfl
  refine ⟨hended, ?_⟩
  rw [hended, isHandled_error_iff]
  simp

/-- Messages that are no objects are not handled either. -/
example : LintResult.IsMisshapen
    (.arr [.obj [("filePath", .str "/w/a.js"), ("messages", .arr [.int 1])]]) := by
  refine ⟨_, rfl, _, List.mem_singleton_self _, rfl, fun h => ?_⟩
  obtain ⟨members, hmembers⟩ := (h rfl).2 (.int 1) (List.mem_singleton_self _)
  cases hmembers

end Linter

end InlineReview
