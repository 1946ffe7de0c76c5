import InlineReview.Proofs.Lint.Reports
import InlineReview.Proofs.Lint.StaleReports
import InlineReview.Proofs.Review.Attribution

/-!
# What the linter is started on

The linter is started once, on the changed files that lie under no excluded directory, each under
its path in the workspace; without such a file, or with an old report that cannot be removed, it is
not started.  A report may name a file in any way that leads to it, and its results are those of the
entries that are read.

* `Linter.isLintable_eq` — the files that are linted, told by where they lie.
* `Linter.does_run_command` — the command that is started.
* `Linter.LeadsTo` — the reported paths that lead to a changed file.
* `Linter.eq_resultsRead` — the results are those of the entries that are read.
-/

namespace InlineReview

open InlineReview.Path

/-! ## Leads of names -/

namespace Text

theorem startsWith_iff {lead s : List Char} : startsWith lead s = true ↔ lead <+: s := by
  rw [startsWith, Option.isSome_iff_exists]
  constructor
  · rintro ⟨rest, h⟩
    exact ⟨rest, (eq_append_of_dropLead? h).symm⟩
  · rintro ⟨rest, rfl⟩
    exact ⟨rest, dropLead?_append lead rest⟩

/-- A text begins with a piece and the character behind it exactly if that is its first piece, and
not the only one. -/
theorem startsWith_append_singleton_iff {sep : Char} {w s : List Char} (h : sep ∉ w) :
    startsWith (w ++ [sep]) s = true ↔ ∃ ws, ws ≠ [] ∧ pieces sep s = w :: ws := by
  rw [startsWith_iff]
  constructor
  · rintro ⟨rest, rfl⟩
    refine ⟨pieces sep rest, pieces_ne_nil sep rest, ?_⟩
    rw [List.append_assoc, List.singleton_append, pieces_append_cons h]
  · rintro ⟨ws, hne, hpieces⟩
    refine ⟨joinWith sep ws, ?_⟩
    rw [← joinWith_pieces sep s, hpieces, joinWith_cons hne, List.append_assoc,
      List.singleton_append]

end Text

open Text

namespace Path

/-- Does a name lead from the root to something in a directory? -/
def liesUnder (directory name : String) : Bool :=
  (ofText directory).place.isInside (ofText name).place

/-- The place that a clean name leads to from the root. -/
theorem IsClean.place_eq {name : String} (h : IsClean name) : (ofText name).place =
    { twoSlashes := false, components := (pieces '/' name.toList).map String.ofList } := by
  have hcomponents : (ofText name).components = (ofText name).parts :=
    (foldl_step_of_not_mem h.above_not_mem []).trans (List.nil_append _)
  rw [place, hcomponents, h.parts_eq, h.anchor_eq]
  rfl

/-- A clean name begins with a directory and a slash exactly if it lies in the directory. -/
theorem IsClean.startsWith_eq {directory name : String} (hdirectory : IsClean directory)
    (hslash : '/' ∉ directory.toList) (hname : IsClean name) :
    startsWith (directory ++ "/").toList name.toList = liesUnder directory name := by
  rw [liesUnder, hdirectory.place_eq, hname.place_eq, pieces_of_not_mem hslash, Bool.eq_iff_iff,
    String.toList_append, show "/".toList = ['/'] from rfl, startsWith_append_singleton_iff hslash]
  cases hpieces : pieces '/' name.toList with
  | nil => exact absurd hpieces (pieces_ne_nil _ _)
  | cons w ws =>
    have hinside : Place.isInside ⟨false, [directory]⟩ ⟨false, (w :: ws).map String.ofList⟩ = true ↔
        ws ≠ [] ∧ directory = String.ofList w := by
      simp [Place.isInside, ← List.length_pos_iff]
    rw [List.map_singleton, String.ofList_toList, hinside]
    constructor
    · rintro ⟨others, hne, heq⟩
      obtain ⟨rfl, rfl⟩ := List.cons.inj heq
      exact ⟨hne, by simp⟩
    · rintro ⟨hne, rfl⟩
      exact ⟨ws, hne, by simp⟩

end Path

/-! ## Files to lint -/

namespace Linter

/-- Does a changed file lie under a directory whose files are not linted? -/
def isExcluded (name : String) : Bool := liesUnder "action" name || liesUnder "node_modules" name

/-- A changed file of a clean name is linted unless it lies under an excluded directory. -/
theorem isLintable_eq {name : String} (h : IsClean name) : isLintable name = ! isExcluded name := by
  have haction : IsClean "action" := by decide
  have hmodules : IsClean "node_modules" := by decide
  have hstarts : startsWith "action/".toList name.toList = liesUnder "action" name :=
    haction.startsWith_eq (by decide) h
  have hstarts' : startsWith "node_modules/".toList name.toList = liesUnder "node_modules" name :=
    hmodules.startsWith_eq (by decide) h
  simp only [isLintable, excluded, List.any_cons, List.any_nil, Bool.or_false, hstarts, hstarts',
    isExcluded]

theorem lintable_eq {names : List String} (h : ∀ name ∈ names, IsClean name) :
    lintable names = names.filter fun name => ! isExcluded name :=
  List.filter_congr fun name hname => isLintable_eq (h name hname)

end Linter

/-! ## Commands that are started -/

namespace Run

variable {α β : Type} {x : Run α} {K : Deed → Prop} {cs : List Command}

/-- Does an action start these commands, whether it fails or not? -/
def Starts (x : Run α) (cs : List Command) : Prop :=
  x.Does fun _ ds _ => ds.filterMap Deed.command? = cs

/-- Where no deed is a command, nothing is started. -/
theorem Guards.starts (hx : x.Guards K) (hK : ∀ d, K d → d.command? = none) : x.Starts [] := by
  refine Does.imp hx fun _ ds _ h => List.filterMap_eq_nil_iff.2 fun d hd => ?_
  rcases h.2 d hd with hwrite | hkind
  · cases d with
    | write entries => rfl
    | _ => exact hwrite.elim
  · exact hK d hkind

theorem IsMute.starts (hx : x.IsMute) : x.Starts [] :=
  (hx.attends fun _ => False).guards.starts fun _ h => h.elim

/-- What follows starts nothing. -/
theorem Starts.bind {f : α → Run β} (hx : x.Starts cs) (hf : ∀ a, (f a).Starts []) :
    (x >>= f).Starts cs := by
  refine does_bind_of_append hx hf fun _ before after hbefore hafter => ?_
  rw [List.filterMap_append, hbefore, hafter, List.append_nil]

theorem Starts.noted (c : Context) (l : Level) (m : String) (hx : x.Starts cs) :
    (note c l m >>= fun _ => x).Starts cs := by
  refine (Does.noted c l m hx).imp ?_
  rintro w ds res ⟨entries, rest, rfl, h⟩
  exact h

theorem Starts.timed (c : Context) (operation : String) (hx : x.Starts cs) :
    (timed c operation x).Starts cs := by
  refine (Does.timed c operation hx).imp ?_
  rintro w ds res ⟨started, deeds, ended, rfl, h⟩
  simp [List.filterMap_cons, Deed.command?, h]

end Run

namespace Linter

variable {l : Linter} {names : List String}

/-- The command that lints changed files, if there is any to lint. -/
def command? (l : Linter) (names : List String) : Option Command :=
  if (lintable names).isEmpty then none else some (l.commandOn names)

/-- Running the linter starts its command and nothing else, unless an old report cannot be
removed. -/
theorem does_run_command (l : Linter) (names : List String) :
    (l.run names).Does fun w ds res =>
      ds.filterMap Deed.command? = (l.command? names).toList ∨
        ds.filterMap Deed.command? = [] ∧
          ∃ failure, res = .error failure ∧ l.removalFault? w.files = some failure := by
  unfold run command?
  by_cases hempty : (lintable names).isEmpty = true
  · simp only [hempty, if_true]
    exact ((Run.isMute_note _ _ _).bind fun _ => Run.isMute_pure []).starts.imp
      fun _ _ _ h => .inl h
  · simp only [if_neg hempty]
    have hstart : (l.start (l.commandFor (lintable names))).Starts [l.commandOn names] :=
      (l.does_start _).imp fun _ ds _ h => by rw [h]; rfl
    have hread := fun ending : Ending =>
      ((isMute_noteStatus ending).bind fun _ => l.isMute_readReport).starts
    refine (l.does_removeReport.bind fun _ =>
      ((hstart.timed [] "eslint").bind hread).noted [] .info _).imp ?_
    rintro w ds res (⟨e, ⟨-, h, -⟩ | ⟨rfl, failure, hfailed, hremoval⟩, rfl⟩ |
      ⟨_, before, after, rfl, ⟨rfl, -⟩ | ⟨-, failure, h, -⟩, hcommands⟩)
    · cases h
    · exact .inr ⟨rfl, failure, by rw [Except.error.inj hfailed], hremoval⟩
    · exact .inl (by rw [List.filterMap_append, hcommands]; rfl)
    · cases h

/-! ## Reported paths -/

/-- Does a reported path lead to the changed file of a name, as the argument does by which the
linter is given the file? -/
def LeadsTo (workspace : Path) (name : String) (file : Json) : Prop :=
  ∃ path, file = .str path ∧ path ≠ "" ∧
    (ofText path).components = (ofText (workspace.join (ofText name)).text).components

theorem LeadsTo.placeOfReported_eq {workspace name : String} {file : Json}
    (h : LeadsTo (ofText workspace) name file) (hname : IsClean name) :
    placeOfReported file (ofText workspace) = .ok name := by
  obtain ⟨path, rfl, hpath, hcomponents⟩ := h
  rw [ofText_text_join_ofText] at hcomponents
  exact (placeOf_eq_ok_iff _ hpath hname).2 hcomponents

/-- A path leads to one clean name at most. -/
theorem LeadsTo.unique {workspace name other : String} {file : Json}
    (h : LeadsTo (ofText workspace) name file) (h' : LeadsTo (ofText workspace) other file)
    (hname : IsClean name) (hother : IsClean other) : other = name :=
  Except.ok.inj ((h'.placeOfReported_eq hother).symm.trans (h.placeOfReported_eq hname))

/-! ## Entries that are read -/

/-- The entries that are read when the linter is run on changed files: those of the report that it
leaves, if it is run and leaves an array. -/
def entriesRead (l : Linter) (names : List String) (store : FileStore) (lintRun : LintRun) :
    List Json :=
  if (lintable names).isEmpty then []
  else
    match l.reportValue (l.storeAfter names store lintRun) with
    | .ok (.arr entries) => entries
    | _ => []

/-- The results of the entries that give a path. -/
def resultsRead (l : Linter) (names : List String) (store : FileStore) (lintRun : LintRun) :
    List LintResult :=
  (l.entriesRead names store lintRun).filterMap LintResult.resultIn?

/-- A run that gives results gives those of all entries that are read. -/
theorem eq_resultsRead {store after : FileStore} {lintRun : LintRun} {results : List LintResult}
    (h : l.resultsOf? names store lintRun = some (after, results)) :
    results = l.resultsRead names store lintRun := by
  unfold resultsRead entriesRead
  by_cases hempty : (lintable names).isEmpty = true
  · rw [if_pos hempty]
    rw [resultsOf?, if_pos hempty] at h
    exact (Prod.mk.inj (Option.some.inj h)).2.symm
  · rw [if_neg hempty]
    obtain ⟨-, -, -, report, hreport, hresults⟩ := (resultsOf?_eq_some_iff hempty).1 h
    rw [hreport]
    cases report with
    | arr entries =>
      change (LintResult.ofEntries entries).outcome.1.toOption = some results at hresults
      by_cases hread : ∀ entry ∈ entries, LintResult.IsRead entry
      · rw [(LintResult.tells_ofEntries hread).outcome_eq] at hresults
        exact (Option.some.inj hresults).symm
      · obtain ⟨fault, es, htells⟩ := LintResult.exists_stop hread
        rw [htells.outcome_eq] at hresults
        cases hresults
    | _ => cases hresults

end Linter

end InlineReview
