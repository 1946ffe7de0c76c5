import InlineReview.Proofs.Decimal.Order
import InlineReview.Proofs.Settings.Reading

/-!
# Deadlines

Whatever text an environment gives for the deadline, the environment is refused or the deadline is a
number greater than zero.

* `Settings.Refuses` — the reasons for which an environment is refused.
* `Settings.refused_or_positive` — the end of reading, told by the deadline.
-/

namespace InlineReview.Settings

/-- The reasons for which an environment is refused. -/
inductive Refuses (env : Environment) : SettingsFault → Prop
  /-- Values that must be given are missing. -/
  | missing (h : missing env ≠ []) : Refuses env (.missing (missing env))
  /-- The repository is no owner and name. -/
  | badRepository {value : String} (hvalue : IsValueOf env "GITHUB_REPOSITORY" value)
      (h : ∀ owner name, ¬ IsRepository value owner name) : Refuses env (.badRepository value)
  /-- The deadline is given as a text that is not that of a number. -/
  | badTimeout {value : String} (hvalue : IsValueOf env "INPUT_REQUEST_TIMEOUT" value)
      (h : ∀ timeout, ¬ Double.Spells value.toList timeout) : Refuses env .badTimeout
  /-- An address is none. -/
  | badAddress (h : hostAddressOf env = none ∨ modelAddressOf env = none) : Refuses env .invalid
  /-- The deadline is a number, but zero is not less than it. -/
  | notPositive {timeout : Double} (htimeout : IsTimeout env timeout)
      (h : ¬ Double.Less (.zero false) timeout) : Refuses env .invalid

/-- An environment is refused for a reason, or the deadline it sets is greater than zero. -/
theorem refused_or_positive (env : Environment) :
    (∃ fault, ofEnvironment env = .error fault ∧ Refuses env fault) ∨
      ∃ s, ofEnvironment env = .ok s ∧ IsTimeout env s.timeout ∧
        Double.Less (.zero false) s.timeout := by
  have hreading := isReading env
  generalize ofEnvironment env = result at hreading ⊢
  cases hreading with
  | missing hrequired =>
    obtain ⟨rfl, hmissing⟩ := required_eq_error_iff.1 hrequired
    exact Or.inl ⟨_, rfl, .missing hmissing⟩
  | @badRepository r hrequired hrepository =>
    obtain ⟨-, -, hvalue, -⟩ := required_eq_ok_iff.1 hrequired
    have hparts : ∀ owner name, ¬ IsRepository r.repository owner name := by
      intro owner name hparts
      rw [isRepository_iff.2 ⟨owner, name, hparts⟩] at hrepository
      cases hrepository
    exact Or.inl ⟨_, rfl, .badRepository hvalue hparts⟩
  | badTimeout hrequired hrepository hvalue htext => exact Or.inl ⟨_, rfl, .badTimeout hvalue htext⟩
  | invalid hrequired hrepository htimeout hinvalid =>
    rcases hinvalid with hhost | hmodel | hpositive
    · exact Or.inl ⟨_, rfl, .badAddress (Or.inl hhost)⟩
    · exact Or.inl ⟨_, rfl, .badAddress (Or.inr hmodel)⟩
    · refine Or.inl ⟨_, rfl, .notPositive htimeout ?_⟩
      rw [← Double.isPositive_iff, hpositive]
      decide
  | read hrequired hrepository htimeout hhost hmodel hpositive =>
    exact Or.inr ⟨_, rfl, htimeout, Double.isPositive_iff.1 hpositive⟩

end InlineReview.Settings
