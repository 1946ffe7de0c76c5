import InlineReview.Proofs.Settings.Reading

/-!
# Environments that agree

What is read of a value does not depend on the blanks around it, and a blank value is read as none,
whether it is a single value, a list of extensions or a switch.  Environments that agree on the
names that are read, up to blanks, are therefore read alike, whatever else is in them.

* `Settings.IgnoresBlanks.get?_eq` — a value is read as it is given.
* `Settings.ofEnvironment_congr` — environments that agree are read alike.
-/

namespace InlineReview.Settings

open Text

variable {α : Type} {env env' : Environment} {name : String}

/-! ## Readers that ignore blanks -/

/-- Does a reader take a blank value for none, and a value with blanks around it for the value? -/
structure IgnoresBlanks (read : Option String → α) : Prop where
  blank : ∀ s : String, IsBlankRun s.toList → read (some s) = read none
  trim : ∀ s : String, read (some (trim s)) = read (some s)

/-- Such a reader reads a value as it is given. -/
theorem IgnoresBlanks.get?_eq {read : Option String → α} (h : IgnoresBlanks read)
    (env : Environment) (name : String) : read (Assoc.get? name env) = read (given? env name) := by
  cases hheld : Assoc.get? name env with
  | none =>
    have hunset : IsUnset env name := by simp [IsUnset, hheld]
    rw [given?_eq_none_iff.2 hunset]
  | some s =>
    by_cases hblank : IsBlankRun s.toList
    · have hunset : IsUnset env name := by simp [IsUnset, hheld, hblank]
      rw [given?_eq_none_iff.2 hunset, h.blank s hblank]
    · have hne : Text.trim s ≠ "" := by
        rw [ne_eq, trim_eq_iff, String.toList_empty, trimL_eq_nil_iff]
        exact hblank
      have hgiven : given? env name = some (Text.trim s) := by simp [given?, hheld, hne]
      rw [hgiven, h.trim]

theorem ignoresBlanks_extensionsOf : IgnoresBlanks extensionsOf where
  blank := fun _ h => extensionsOf_blank h
  trim := extensionsOf_trim

theorem ignoresBlanks_isAffirmed (default : Bool) : IgnoresBlanks (isAffirmed default) where
  blank := fun s h => by simp [isAffirmed, allBlank_iff.2 h]
  trim := fun s => by
    have htrim : (Text.trim s).toList = trimL s.toList := (trim_eq_iff.1 rfl).symm
    have hblank : allBlank (Text.trim s) = allBlank s := by
      rw [Bool.eq_iff_iff, allBlank_iff, allBlank_iff, htrim, ← trimL_eq_nil_iff,
        ← trimL_eq_nil_iff, trimL_trimL]
    simp only [isAffirmed, hblank, htrim, trimL_trimL]

/-! ## Agreement -/

/-- Do two environments agree on a name: has neither of them a value there, or do they have the same
one up to the blanks around it? -/
def AgreeOn (env env' : Environment) (name : String) : Prop :=
  (IsUnset env name ∧ IsUnset env' name) ∨
    ∃ s s', Assoc.get? name env = some s ∧ Assoc.get? name env' = some s' ∧
      Text.trim s = Text.trim s'

theorem agreeOn_iff : AgreeOn env env' name ↔ given? env name = given? env' name := by
  constructor
  · rintro (⟨hunset, hunset'⟩ | ⟨s, s', hs, hs', htrim⟩)
    · rw [given?_eq_none_iff.2 hunset, given?_eq_none_iff.2 hunset']
    · simp only [given?, hs, hs', Option.bind_some, htrim]
  · intro h
    cases hvalue : given? env name with
    | none => exact Or.inl ⟨given?_eq_none_iff.1 hvalue, given?_eq_none_iff.1 (h ▸ hvalue)⟩
    | some value =>
      have held : ∀ {e : Environment}, given? e name = some value →
          ∃ s, Assoc.get? name e = some s ∧ Text.trim s = value := by
        intro e he
        obtain ⟨s, hs, hread⟩ := Option.bind_eq_some_iff.1 he
        dsimp only at hread
        split at hread
        · cases hread
        · exact ⟨s, hs, Option.some.inj hread⟩
      obtain ⟨s, hs, htrim⟩ := held hvalue
      obtain ⟨s', hs', htrim'⟩ := held (h ▸ hvalue)
      exact Or.inr ⟨s, s', hs, hs', htrim.trans htrim'.symm⟩

instance : Decidable (AgreeOn env env' name) := decidable_of_iff _ agreeOn_iff.symm

theorem firstGiven?_congr {names : List String}
    (h : ∀ name ∈ names, given? env name = given? env' name) :
    firstGiven? env names = firstGiven? env' names := by
  induction names with
  | nil => rfl
  | cons name names ih =>
    obtain ⟨hname, hrest⟩ := List.forall_mem_cons.1 h
    have hfound := ih hrest
    rw [firstGiven?, firstGiven?] at hfound
    rw [firstGiven?, firstGiven?, List.findSome?_cons, List.findSome?_cons, hname, hfound]

/-- Environments that agree on the names that are read are read alike, to the same settings or to
the same fault. -/
theorem ofEnvironment_congr (h : ∀ name ∈ variableNames, AgreeOn env env' name) :
    ofEnvironment env = ofEnvironment env' := by
  have hgiven : ∀ name ∈ variableNames, given? env name = given? env' name :=
    fun name hname => agreeOn_iff.1 (h name hname)
  simp only [variableNames, List.forall_mem_cons] at hgiven
  obtain ⟨hinputToken, htoken, hinputKey, hkey, hrepository, hevent, hworkspace, hhost, hmodel,
    hname, hextensions, hlinter, hconfig, hdirectory, htimeout, haffirmed, -⟩ := hgiven
  have hfirstToken : firstGiven? env ["INPUT_GITHUB_TOKEN", "GITHUB_TOKEN"] =
      firstGiven? env' ["INPUT_GITHUB_TOKEN", "GITHUB_TOKEN"] :=
    firstGiven?_congr (by simp [hinputToken, htoken])
  have hfirstKey : firstGiven? env ["INPUT_GEMINI_API_KEY", "GEMINI_API_KEY"] =
      firstGiven? env' ["INPUT_GEMINI_API_KEY", "GEMINI_API_KEY"] :=
    firstGiven?_congr (by simp [hinputKey, hkey])
  have hrequired : required env = required env' := by
    simp only [required, hfirstToken, hfirstKey, hrepository, hevent]
  have hdeadline : timeoutOf env = timeoutOf env' := by simp only [timeoutOf, htimeout]
  simp only [ofEnvironment, hrequired, hdeadline, hworkspace, hhost, hmodel, hname, hlinter,
    hconfig, hdirectory, ignoresBlanks_extensionsOf.get?_eq, hextensions,
    (ignoresBlanks_isAffirmed false).get?_eq, haffirmed]

/-- An environment with blanks around its values, and with others that are blank or not read. -/
def paddedEnvironment : Environment :=
  [("PATH", "/bin"), ("INPUT_GITHUB_TOKEN", "  "), ("GITHUB_TOKEN", " t\n"),
    ("GEMINI_API_KEY", "\tk"), ("GITHUB_REPOSITORY", " o/r "), ("GITHUB_EVENT_PATH", "/e "),
    ("GITHUB_API_URL", "http://[::1] "), ("GEMINI_API_BASE_URL", " http://[::1]"),
    ("INPUT_FILE_EXTENSIONS", " js, .ts\n"), ("INPUT_POST_LINT_ONLY_COMMENTS", " Yes "),
    ("INPUT_REQUEST_TIMEOUT", "\u00a0")]

/-- The same values without the blanks. -/
def tidyEnvironment : Environment :=
  [("GITHUB_TOKEN", "t"), ("GEMINI_API_KEY", "k"), ("GITHUB_REPOSITORY", "o/r"),
    ("GITHUB_EVENT_PATH", "/e"), ("GITHUB_API_URL", "http://[::1]"),
    ("GEMINI_API_BASE_URL", "http://[::1]"), ("INPUT_FILE_EXTENSIONS", "js, .ts"),
    ("INPUT_POST_LINT_ONLY_COMMENTS", "Yes")]

/-- Both are read, and alike. -/
theorem ofEnvironment_padded : (ofEnvironment tidyEnvironment).isOk = true ∧
    (∀ name ∈ variableNames, AgreeOn paddedEnvironment tidyEnvironment name) ∧
    ofEnvironment paddedEnvironment = ofEnvironment tidyEnvironment := by
  have hagree : ∀ name ∈ variableNames, AgreeOn paddedEnvironment tidyEnvironment name := by
    decide +kernel
  exact ⟨by decide +kernel, hagree, ofEnvironment_congr hagree⟩

end InlineReview.Settings
