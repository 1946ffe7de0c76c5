import InlineReview.CodeHost
import InlineReview.Proofs.Decimal.Spelling
import InlineReview.Proofs.Settings.Extensions

/-!
# Reading an environment

An environment is read in steps, each of which may refuse it: values are missing, the repository is
no owner and name, the deadline is no number, or a part of the settings is invalid.  What is read in
the end has an owner and a name for its repository and a list of extensions for its source files,
and the values that must be given are the first ones that are.

* `Settings.isReading` — the ways in which an environment is read.
* `Settings.isRepository_iff` — which values are repositories.
* `Settings.isSettled` — what is read, and what is told to be missing.
-/

namespace InlineReview.Settings

open Text

variable {env : Environment}

/-! ## Repositories -/

/-- Is a value an owner and a name, neither of them empty, with the only slash between them? -/
structure IsRepository (value owner name : String) : Prop where
  eq : value = owner ++ "/" ++ name
  owner_ne : owner ≠ ""
  name_ne : name ≠ ""
  owner_free : '/' ∉ owner.toList
  name_free : '/' ∉ name.toList

theorem IsRepository.toList_eq {value owner name : String} (h : IsRepository value owner name) :
    value.toList = owner.toList ++ '/' :: name.toList := by
  rw [h.eq]
  simp

theorem isRepository_iff {value : String} :
    isRepository value = true ↔ ∃ owner name, IsRepository value owner name := by
  constructor
  · intro h
    unfold isRepository at h
    split at h
    · rename_i owner name hpieces
      have hfree : ∀ w ∈ pieces '/' value.toList, '/' ∉ w := fun w => not_mem_of_mem_pieces
      have hjoin := joinWith_pieces '/' value.toList
      rw [hpieces] at hfree hjoin
      obtain ⟨howner, hname⟩ : owner ≠ [] ∧ name ≠ [] := by simpa using h
      refine ⟨String.ofList owner, String.ofList name, ?_, ?_, ?_, ?_, ?_⟩
      · rw [← String.toList_inj, ← hjoin]
        simp [joinWith]
      · simpa using howner
      · simpa using hname
      · simpa using hfree owner (by simp)
      · simpa using hfree name (by simp)
    · cases h
  · rintro ⟨owner, name, h⟩
    have hpieces : pieces '/' value.toList = [owner.toList, name.toList] := by
      rw [h.toList_eq, show owner.toList ++ '/' :: name.toList =
        joinWith '/' [owner.toList, name.toList] from rfl]
      refine pieces_joinWith (by simp) ?_
      simp [h.owner_free, h.name_free]
    simp [isRepository, hpieces, h.owner_ne, h.name_ne]

/-- A repository is taken apart into its owner and its name. -/
theorem IsRepository.splitName_eq {value owner name : String} (h : IsRepository value owner name) :
    CodeHost.splitName value = .ok (owner, name) := by
  rw [CodeHost.splitName, h.toList_eq, breakAt_append_cons _ h.owner_free]
  simp

/-! ## The deadline -/

/-- Is this the deadline that an environment sets: the number whose text it gives, or thirty seconds
if it gives none? -/
def IsTimeout (env : Environment) (timeout : Double) : Prop :=
  (IsUnset env "INPUT_REQUEST_TIMEOUT" ∧ timeout = defaultTimeout) ∨
    ∃ value, IsValueOf env "INPUT_REQUEST_TIMEOUT" value ∧ Double.Spells value.toList timeout

theorem timeoutOf_eq_ok_iff {timeout : Double} :
    timeoutOf env = .ok timeout ↔ IsTimeout env timeout := by
  unfold timeoutOf IsTimeout
  cases hgiven : given? env "INPUT_REQUEST_TIMEOUT" with
  | none =>
    have hunset := given?_eq_none_iff.1 hgiven
    simp [← given?_eq_some_iff, hgiven, hunset, eq_comm]
  | some value =>
    have hset : ¬ IsUnset env "INPUT_REQUEST_TIMEOUT" := by simp [← given?_eq_none_iff, hgiven]
    have hvalue := given?_eq_some_iff.1 hgiven
    simp only [← given?_eq_some_iff, hgiven, hset, false_and, false_or, Option.some.injEq,
      exists_eq_left', ← Double.read?_eq_some_iff hvalue.2.1]
    cases hread : Double.read? value <;> simp

theorem timeoutOf_eq_error_iff {fault : SettingsFault} : timeoutOf env = .error fault ↔
    fault = .badTimeout ∧ ∃ value, IsValueOf env "INPUT_REQUEST_TIMEOUT" value ∧
      ∀ timeout, ¬ Double.Spells value.toList timeout := by
  unfold timeoutOf
  cases hgiven : given? env "INPUT_REQUEST_TIMEOUT" with
  | none => simp [← given?_eq_some_iff, hgiven]
  | some value =>
    have hvalue := given?_eq_some_iff.1 hgiven
    simp only [← given?_eq_some_iff, hgiven, Option.some.injEq, exists_eq_left',
      ← Double.read?_eq_none_iff hvalue.2.1]
    cases hread : Double.read? value <;> simp [eq_comm]

/-! ## The steps of reading -/

/-- The address that an environment sets under a name. -/
def addressOf (env : Environment) (name default : String) : Option WebAddress :=
  WebAddress.read? ((given? env name).getD default)

/-- The address of the code host that an environment sets. -/
def hostAddressOf (env : Environment) : Option WebAddress :=
  addressOf env "GITHUB_API_URL" defaultHostAddress

/-- The address of the model that an environment sets. -/
def modelAddressOf (env : Environment) : Option WebAddress :=
  addressOf env "GEMINI_API_BASE_URL" defaultModelAddress

/-- The settings that are put together from what was read. -/
def assembled (env : Environment) (r : Required) (hostAddress modelAddress : WebAddress)
    (timeout : Double) : Settings where
  hostToken := r.hostToken
  modelKey := r.modelKey
  repository := r.repository
  eventPath := Path.ofText r.eventPath
  workspace := Path.ofText ((given? env "GITHUB_WORKSPACE").getD "/")
  hostAddress
  modelAddress
  modelName := (given? env "INPUT_GEMINI_MODEL").getD defaultModelName
  extensions := extensionsOf (Assoc.get? "INPUT_FILE_EXTENSIONS" env)
  linter := (given? env "INPUT_ESLINT_BIN").getD defaultLinter
  linterConfig := (given? env "INPUT_ESLINT_CONFIG").getD defaultLinterConfig
  linterDirectory := (given? env "INPUT_ESLINT_CWD").map Path.ofText
  reportPath := none
  timeout
  postLintOnly := isAffirmed false (Assoc.get? "INPUT_POST_LINT_ONLY_COMMENTS" env)
  checkName := defaultCheckName

/-- The ways in which an environment is read: each step has its fault. -/
inductive IsReading (env : Environment) : Except SettingsFault Settings → Prop
  /-- Values that must be given are not. -/
  | missing {names : List String} (hrequired : required env = .error names) :
    IsReading env (.error (.missing names))
  /-- The repository is no owner and name. -/
  | badRepository {r : Required} (hrequired : required env = .ok r)
      (hrepository : isRepository r.repository = false) :
    IsReading env (.error (.badRepository r.repository))
  /-- The deadline is no number. -/
  | badTimeout {r : Required} {value : String} (hrequired : required env = .ok r)
      (hrepository : isRepository r.repository = true)
      (hvalue : IsValueOf env "INPUT_REQUEST_TIMEOUT" value)
      (htext : ∀ timeout, ¬ Double.Spells value.toList timeout) :
    IsReading env (.error .badTimeout)
  /-- An address is none, or the deadline is not positive. -/
  | invalid {r : Required} {timeout : Double} (hrequired : required env = .ok r)
      (hrepository : isRepository r.repository = true) (htimeout : IsTimeout env timeout)
      (hinvalid : hostAddressOf env = none ∨ modelAddressOf env = none ∨
        timeout.isPositive = false) :
    IsReading env (.error .invalid)
  /-- All is read. -/
  | read {r : Required} {timeout : Double} {hostAddress modelAddress : WebAddress}
      (hrequired : required env = .ok r) (hrepository : isRepository r.repository = true)
      (htimeout : IsTimeout env timeout) (hhost : hostAddressOf env = some hostAddress)
      (hmodel : modelAddressOf env = some modelAddress) (hpositive : timeout.isPositive = true) :
    IsReading env (.ok (assembled env r hostAddress modelAddress timeout))

theorem isReading (env : Environment) : IsReading env (ofEnvironment env) := by
  unfold ofEnvironment
  cases hrequired : required env with
  | error names => exact .missing hrequired
  | ok r =>
    by_cases hrepository : isRepository r.repository = true
    · cases htimeout : timeoutOf env with
      | error fault =>
        obtain ⟨rfl, value, hvalue, htext⟩ := timeoutOf_eq_error_iff.1 htimeout
        simp only [Except.mapError, bind, Except.bind, hrepository]
        exact .badTimeout hrequired hrepository hvalue htext
      | ok timeout =>
        have hset := timeoutOf_eq_ok_iff.1 htimeout
        simp only [Except.mapError, bind, Except.bind, hrepository]
        rw [← addressOf, ← addressOf, ← hostAddressOf, ← modelAddressOf]
        cases hhost : hostAddressOf env with
        | none => exact .invalid hrequired hrepository hset (.inl hhost)
        | some hostAddress =>
          cases hmodel : modelAddressOf env with
          | none => exact .invalid hrequired hrepository hset (.inr (.inl hmodel))
          | some modelAddress =>
            cases hpositive : timeout.isPositive with
            | false => exact .invalid hrequired hrepository hset (.inr (.inr hpositive))
            | true => exact .read hrequired hrepository hset hhost hmodel hpositive
    · rw [Bool.not_eq_true] at hrepository
      simp only [Except.mapError, bind, Except.bind, hrepository]
      exact .badRepository hrequired hrepository

/-! ## What is read -/

/-- What holds of settings that are read. -/
structure IsSound (env : Environment) (s : Settings) : Prop where
  hostToken : IsFirstOf env ["INPUT_GITHUB_TOKEN", "GITHUB_TOKEN"] s.hostToken
  modelKey : IsFirstOf env ["INPUT_GEMINI_API_KEY", "GEMINI_API_KEY"] s.modelKey
  repository : IsValueOf env "GITHUB_REPOSITORY" s.repository
  parts : ∃ owner name, IsRepository s.repository owner name ∧
    CodeHost.splitName s.repository = .ok (owner, name)
  extensions_ne : s.extensions ≠ []
  extensions : ∀ e ∈ s.extensions, IsExtension e
  reread : extensionsOf (some (String.intercalate "," s.extensions)) = s.extensions

/-- How an environment is settled. -/
inductive IsSettled (env : Environment) : Except SettingsFault Settings → Prop
  /-- Values are missing, and the message lists them. -/
  | unset {fault : SettingsFault} (hmissing : missing env ≠ []) (hmessage : fault.message =
      "Lint review is not configured. Missing environment variables: " ++
        String.intercalate ", " (missing env) ++ ".") :
    IsSettled env (.error fault)
  /-- No value is missing, and the environment is refused for something else. -/
  | refused {fault : SettingsFault} (hmissing : missing env = [])
      (hfault : ∀ names, fault ≠ .missing names) : IsSettled env (.error fault)
  /-- No value is missing, and the settings are sound. -/
  | read {s : Settings} (hmissing : missing env = []) (hs : IsSound env s) : IsSettled env (.ok s)

theorem missing_eq_nil {r : Required} (h : required env = .ok r) : missing env = [] := by
  by_contra hmissing
  have herror := required_eq_error_iff.2 ⟨rfl, hmissing⟩
  rw [h] at herror
  cases herror

/-- An environment in which values are missing is refused with their list, and what is read of any
other one is sound. -/
theorem isSettled (env : Environment) : IsSettled env (ofEnvironment env) := by
  have hreading := isReading env
  generalize ofEnvironment env = result at hreading ⊢
  cases hreading with
  | missing hrequired =>
    obtain ⟨rfl, hmissing⟩ := required_eq_error_iff.1 hrequired
    exact .unset hmissing rfl
  | badRepository hrequired => exact .refused (missing_eq_nil hrequired) (by simp)
  | badTimeout hrequired => exact .refused (missing_eq_nil hrequired) (by simp)
  | invalid hrequired => exact .refused (missing_eq_nil hrequired) (by simp)
  | @read r timeout hostAddress modelAddress hrequired hrepository =>
    obtain ⟨hhost, hmodel, hvalue, -⟩ := required_eq_ok_iff.1 hrequired
    obtain ⟨owner, name, hparts⟩ := isRepository_iff.1 hrepository
    have hextensions := isExtension_of_mem (Assoc.get? "INPUT_FILE_EXTENSIONS" env)
    have hne := extensionsOf_ne_nil (Assoc.get? "INPUT_FILE_EXTENSIONS" env)
    exact .read (missing_eq_nil hrequired) {
      hostToken := hhost
      modelKey := hmodel
      repository := hvalue
      parts := ⟨owner, name, hparts, hparts.splitName_eq⟩
      extensions_ne := hne
      extensions := hextensions
      reread := extensionsOf_join hne hextensions }

end InlineReview.Settings
