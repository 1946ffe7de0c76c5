import InlineReview.Proofs.Text.Trimming
import InlineReview.Settings

/-!
# Values of an environment

A value counts without the blanks around it, and one of nothing but blanks counts as none.  Of
several names the first one with a value counts.

* `Settings.given?_eq_some_iff` — the value of a name.
* `Settings.firstGiven?_eq_some_iff` — the value of the first name that has one.
* `Settings.required_eq_ok_iff`, `Settings.required_eq_error_iff` — the values that must be given.
-/

namespace InlineReview.Settings

open Text

/-! ## One name -/

/-- Does an environment have nothing under a name, or nothing but blanks? -/
def IsUnset (env : Environment) (name : String) : Prop :=
  ∀ value, Assoc.get? name env = some value → IsBlankRun value.toList

/-- Does an environment have a value under a name, with blanks around it perhaps?  The value itself
is not empty, and no blank is at its ends. -/
def IsValueOf (env : Environment) (name value : String) : Prop :=
  value ≠ "" ∧ IsTrimmed value.toList ∧
    ∃ lead trail, IsBlankRun lead ∧ IsBlankRun trail ∧
      Assoc.get? name env = some (String.ofList (lead ++ value.toList ++ trail))

section

variable {env : Environment} {name value : String} {names : List String}

theorem trim_eq_iff {s t : String} : trim s = t ↔ trimL s.toList = t.toList := by
  rw [trim, ← String.toList_inj, String.toList_ofList]

theorem given?_eq_none_iff : given? env name = none ↔ IsUnset env name := by
  have hblank : ∀ s : String, trim s = "" ↔ IsBlankRun s.toList := by
    intro s
    rw [trim_eq_iff, String.toList_empty]
    exact trimL_eq_nil_iff
  unfold given? IsUnset
  cases hheld : Assoc.get? name env with
  | none => simp
  | some s => simp [hblank]

theorem given?_eq_some_iff : given? env name = some value ↔ IsValueOf env name value := by
  unfold given? IsValueOf
  cases hheld : Assoc.get? name env with
  | none => simp
  | some s =>
    have hvalue : (some s).bind (fun held =>
        let held := trim held
        if held = "" then none else some held) = some value ↔
          value ≠ "" ∧ trimL s.toList = value.toList := by
      rw [← trim_eq_iff, Option.bind_some]
      by_cases hempty : trim s = ""
      · simp only [hempty, if_true]
        constructor
        · intro h
          cases h
        · rintro ⟨hne, rfl⟩
          exact absurd rfl hne
      · simp only [hempty, if_false, Option.some.injEq]
        constructor
        · rintro rfl
          exact ⟨hempty, rfl⟩
        · exact fun h => h.2
    rw [hvalue, trimL_eq_iff]
    simp only [Option.some.injEq, ← String.toList_inj, String.toList_ofList]

instance : Decidable (IsUnset env name) := decidable_of_iff _ given?_eq_none_iff

/-! ## Several names -/

/-- Is this the value of the first of some names that has one? -/
def IsFirstOf (env : Environment) (names : List String) (value : String) : Prop :=
  ∃ before name after, names = before ++ name :: after ∧
    (∀ other ∈ before, IsUnset env other) ∧ IsValueOf env name value

theorem firstGiven?_eq_none_iff : firstGiven? env names = none ↔ ∀ name ∈ names, IsUnset env name := by
  simp only [firstGiven?, List.findSome?_eq_none_iff, given?_eq_none_iff]

theorem firstGiven?_eq_some_iff : firstGiven? env names = some value ↔ IsFirstOf env names value := by
  rw [firstGiven?, List.findSome?_eq_some_iff]
  simp only [given?_eq_none_iff, given?_eq_some_iff]
  constructor
  · rintro ⟨before, name, after, hnames, hvalue, hbefore⟩
    exact ⟨before, name, after, hnames, hbefore, hvalue⟩
  · rintro ⟨before, name, after, hnames, hbefore, hvalue⟩
    exact ⟨before, name, after, hnames, hvalue, hbefore⟩

theorem isFirstOf_singleton_iff : IsFirstOf env [name] value ↔ IsValueOf env name value := by
  rw [← firstGiven?_eq_some_iff, ← given?_eq_some_iff, firstGiven?, List.findSome?_singleton]

/-! ## The values that must be given -/

/-- The values that must be given: the name by which each is missed, and the names under which it
is looked for. -/
def needs : List (String × List String) :=
  [("INPUT_GITHUB_TOKEN", ["INPUT_GITHUB_TOKEN", "GITHUB_TOKEN"]),
    ("INPUT_GEMINI_API_KEY", ["INPUT_GEMINI_API_KEY", "GEMINI_API_KEY"]),
    ("GITHUB_REPOSITORY", ["GITHUB_REPOSITORY"]),
    ("GITHUB_EVENT_PATH", ["GITHUB_EVENT_PATH"])]

/-- The names by which values are missed, in the order of the needs. -/
def missing (env : Environment) : List String :=
  (needs.filter fun need => ∀ name ∈ need.2, IsUnset env name).map Prod.fst

theorem missing_eq (env : Environment) : missing env =
    (needs.filter fun need => (firstGiven? env need.2).isNone).map Prod.fst := by
  have hunset : ∀ need : String × List String,
      decide (∀ name ∈ need.2, IsUnset env name) = (firstGiven? env need.2).isNone := by
    intro need
    rw [Bool.eq_iff_iff, decide_eq_true_eq, Option.isNone_iff_eq_none, firstGiven?_eq_none_iff]
  simp only [missing, hunset]

/-- The values that must be given, looked for as their needs say. -/
theorem required_eq (env : Environment) : required env =
    match firstGiven? env ["INPUT_GITHUB_TOKEN", "GITHUB_TOKEN"],
      firstGiven? env ["INPUT_GEMINI_API_KEY", "GEMINI_API_KEY"],
      firstGiven? env ["GITHUB_REPOSITORY"], firstGiven? env ["GITHUB_EVENT_PATH"] with
    | some hostToken, some modelKey, some repository, some eventPath =>
      .ok { hostToken, modelKey, repository, eventPath }
    | _, _, _, _ => .error (missing env) := by
  have hone : ∀ name, given? env name = firstGiven? env [name] := fun name => by
    rw [firstGiven?, List.findSome?_singleton]
  rw [missing_eq, required, hone, hone]
  simp only [needs, List.filter_cons, List.filter_nil]
  cases firstGiven? env ["INPUT_GITHUB_TOKEN", "GITHUB_TOKEN"] <;>
    cases firstGiven? env ["INPUT_GEMINI_API_KEY", "GEMINI_API_KEY"] <;>
    cases firstGiven? env ["GITHUB_REPOSITORY"] <;>
    cases firstGiven? env ["GITHUB_EVENT_PATH"] <;> rfl

theorem required_eq_ok_iff {r : Required} : required env = .ok r ↔
    IsFirstOf env ["INPUT_GITHUB_TOKEN", "GITHUB_TOKEN"] r.hostToken ∧
      IsFirstOf env ["INPUT_GEMINI_API_KEY", "GEMINI_API_KEY"] r.modelKey ∧
      IsValueOf env "GITHUB_REPOSITORY" r.repository ∧
      IsValueOf env "GITHUB_EVENT_PATH" r.eventPath := by
  rw [← isFirstOf_singleton_iff, ← isFirstOf_singleton_iff]
  simp only [← firstGiven?_eq_some_iff]
  obtain ⟨hostToken, modelKey, repository, eventPath⟩ := r
  rw [required_eq]
  split
  · rename_i hhost hmodel hrepository hevent
    simp [hhost, hmodel, hrepository, hevent]
  · rename_i hnone
    simp only [reduceCtorEq, false_iff]
    rintro ⟨hhost, hmodel, hrepository, hevent⟩
    exact hnone _ _ _ _ hhost hmodel hrepository hevent

theorem required_eq_error_iff : required env = .error names ↔
    names = missing env ∧ missing env ≠ [] := by
  rw [required_eq]
  split
  · rename_i hhost hmodel hrepository hevent
    simp [missing_eq, needs, hhost, hmodel, hrepository, hevent]
  · rename_i hnone
    have hmissing : missing env ≠ [] := by
      intro h
      have hgiven : ∀ need ∈ needs, firstGiven? env need.2 ≠ none := by
        simpa [missing_eq] using h
      simp only [needs, List.forall_mem_cons, Option.ne_none_iff_exists'] at hgiven
      obtain ⟨⟨_, hhost⟩, ⟨_, hmodel⟩, ⟨_, hrepository⟩, ⟨_, hevent⟩, -⟩ := hgiven
      exact hnone _ _ _ _ hhost hmodel hrepository hevent
    simp [hmissing, eq_comm]

end

end InlineReview.Settings
