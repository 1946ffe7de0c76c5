import InlineReview.Json.Display
import InlineReview.Proofs.Json.Quoting
import Mathlib.Data.List.Induction
import Mathlib.Data.Nat.Digits.Defs

/-!
# Values that can be shown

A value can be shown if its whole numbers have no more digits than a numeral may have and its
arrays and objects are nested no deeper than `nestingLimit`.  A reader keeps to the same limits, so
that whatever comes out of a document can be shown.

* `Json.Fits` — the values that keep to the limits.
* `Json.exists_shown_iff` — they are the values that can be shown.
* `Json.fits_of_readL` — a document holds no other.
-/

namespace InlineReview.Json

open InlineReview.Text

/-- Does a value keep to the limits, if so many containers may still be opened? -/
inductive Fits : (depth : Nat) → Json → Prop
  | null {depth : Nat} : Fits depth .null
  | bool {depth : Nat} (b : Bool) : Fits depth (.bool b)
  | int {depth : Nat} {n : Int} (h : n.natAbs < 10 ^ Numeral.digitLimit) : Fits depth (.int n)
  | real {depth : Nat} (d : Double) : Fits depth (.real d)
  | str {depth : Nat} (s : String) : Fits depth (.str s)
  | arr {depth : Nat} {elements : List Json} (h : ∀ v ∈ elements, Fits depth v) :
      Fits (depth + 1) (.arr elements)
  | obj {depth : Nat} {members : List (String × Json)} (h : ∀ m ∈ members, Fits depth m.2) :
      Fits (depth + 1) (.obj members)

variable {depth : Nat}

theorem fits_int_iff {n : Int} : Fits depth (.int n) ↔ n.natAbs < 10 ^ Numeral.digitLimit :=
  ⟨fun h => by cases h; assumption, .int⟩

theorem fits_arr_iff {elements : List Json} :
    Fits (depth + 1) (.arr elements) ↔ ∀ v ∈ elements, Fits depth v :=
  ⟨fun h => by cases h; assumption, .arr⟩

theorem fits_obj_iff {members : List (String × Json)} :
    Fits (depth + 1) (.obj members) ↔ ∀ m ∈ members, Fits depth m.2 :=
  ⟨fun h => by cases h; assumption, .obj⟩

theorem Fits.succ {v : Json} (h : Fits depth v) : Fits (depth + 1) v := by
  induction h with
  | null => exact .null
  | bool b => exact .bool b
  | int h => exact .int h
  | real d => exact .real d
  | str s => exact .str s
  | arr _ ih => exact .arr ih
  | obj _ ih => exact .obj ih

/-! ## Showing -/

theorem exists_write_iff {n : Int} :
    (∃ s, Numeral.write n = .ok s) ↔ n.natAbs < 10 ^ Numeral.digitLimit := by
  have hlength : (Numeral.digits n.natAbs).length ≤ Numeral.digitLimit ↔
      n.natAbs < 10 ^ Numeral.digitLimit := Nat.length_toDigits_le_iff (by decide) (by decide)
  rw [← hlength, Numeral.write]
  split
  · rename_i hlong
    exact iff_of_false (fun ⟨s, h⟩ => by cases h) (Nat.not_le.2 hlong)
  · rename_i hshort
    exact iff_of_true ⟨_, rfl⟩ (Nat.le_of_not_lt hshort)

section Exists

variable {ε δ α β γ : Type}

theorem exists_map_iff {x : Except ε α} (f : α → β) :
    (∃ b, x.map f = .ok b) ↔ ∃ a, x = .ok a := by
  cases x <;> simp [Except.map]

theorem exists_mapError_iff {x : Except ε α} (f : ε → δ) :
    (∃ a, x.mapError f = .ok a) ↔ ∃ a, x = .ok a := by
  cases x <;> simp [Except.mapError]

theorem exists_bind_pure_iff {x : Except ε α} (f : α → β) :
    (∃ b, (x >>= fun a => pure (f a)) = .ok b) ↔ ∃ a, x = .ok a := by
  cases x <;> simp [bind, Except.bind, pure, Except.pure]

theorem exists_both_iff {x : Except ε α} {y : Except ε β} (f : α → β → γ) :
    (∃ c, (x >>= fun a => y >>= fun b => pure (f a b)) = .ok c) ↔
      (∃ a, x = .ok a) ∧ ∃ b, y = .ok b := by
  cases x <;> cases y <;> simp [bind, Except.bind, pure, Except.pure]

end Exists

mutual

theorem exists_shownL_iff : (depth : Nat) → (v : Json) →
    ((∃ s, shownL depth v = .ok s) ↔ Fits depth v)
  | _, .null => by simp [shownL, Fits.null]
  | _, .bool b => by simp [shownL, Fits.bool]
  | _, .int n => by
    rw [shownL, exists_map_iff, exists_mapError_iff, exists_write_iff, fits_int_iff]
  | _, .real d => by simp [shownL, Fits.real]
  | _, .str s => by simp [shownL, Fits.str]
  | 0, .arr _ => iff_of_false (fun ⟨s, h⟩ => by cases h) fun h => by cases h
  | 0, .obj _ => iff_of_false (fun ⟨s, h⟩ => by cases h) fun h => by cases h
  | depth + 1, .arr elements => by
    rw [shownL, exists_bind_pure_iff, exists_shownElements_iff depth elements, fits_arr_iff]
  | depth + 1, .obj members => by
    rw [shownL, exists_bind_pure_iff, exists_shownMembers_iff depth members, fits_obj_iff]

theorem exists_shownElements_iff : (depth : Nat) → (vs : List Json) →
    ((∃ s, shownElements depth vs = .ok s) ↔ ∀ v ∈ vs, Fits depth v)
  | _, [] => by simp [shownElements]
  | depth, [v] => by
    rw [shownElements, exists_shownL_iff depth v, List.forall_mem_singleton]
  | depth, v :: w :: vs => by
    rw [shownElements, exists_both_iff, exists_shownL_iff depth v,
      exists_shownElements_iff depth (w :: vs)]
    · simp only [List.forall_mem_cons]
    · exact List.cons_ne_nil w vs

theorem exists_shownMembers_iff : (depth : Nat) → (ms : List (String × Json)) →
    ((∃ s, shownMembers depth ms = .ok s) ↔ ∀ m ∈ ms, Fits depth m.2)
  | _, [] => by simp [shownMembers]
  | depth, [(name, v)] => by
    rw [shownMembers, exists_bind_pure_iff, exists_shownL_iff depth v, List.forall_mem_singleton]
  | depth, (name, v) :: m :: ms => by
    rw [shownMembers, exists_both_iff, exists_shownL_iff depth v,
      exists_shownMembers_iff depth (m :: ms)]
    · simp only [List.forall_mem_cons]
    · exact List.cons_ne_nil m ms

end

/-- A value can be shown exactly if it keeps to the limits. -/
theorem exists_shown_iff {v : Json} : (∃ s, v.shown = .ok s) ↔ v.Fits nestingLimit := by
  rw [shown, exists_map_iff, exists_shownL_iff]

/-! ## Reading -/

theorem ofDigits_lt {ds : List Nat} (h : ∀ d ∈ ds, d < 10) :
    Numeral.ofDigits ds < 10 ^ ds.length := by
  induction ds using List.reverseRecOn with
  | nil => simp [Numeral.ofDigits]
  | append_singleton ds d ih =>
    have hlast := h d (by simp)
    have hfront := ih fun e he => h e (by simp [he])
    have hstep : Numeral.ofDigits (ds ++ [d]) = Numeral.ofDigits ds * 10 + d := by
      simp [Numeral.ofDigits]
    rw [hstep, List.length_append, List.length_singleton, Nat.pow_succ]
    omega

theorem digitsValue_lt {ds : List Char} (h : ∀ c ∈ ds, isAsciiDigit c = true) :
    digitsValue ds < 10 ^ ds.length := by
  rw [← List.length_map (fun c : Char => c.toNat - 48)]
  refine ofDigits_lt fun d hd => ?_
  obtain ⟨c, hc, rfl⟩ := List.mem_map.1 hd
  have := isAsciiDigit_iff.1 (h c hc)
  show c.toNat - 48 < 10
  omega

theorem whole_of_splitNumber? {s rest : List Char} {token : NumberToken}
    (h : splitNumber? s = some (token, rest)) : ∀ c ∈ token.whole, isAsciiDigit c = true := by
  unfold splitNumber? at h
  dsimp only at h
  generalize Prod.snd (_ : Bool × List Char) = r at h
  split at h
  · obtain ⟨rfl, -⟩ := Prod.mk.inj (Option.some_inj.1 h)
    exact List.forall_mem_singleton.2 (by decide)
  split at h
  · cases h
  · obtain ⟨rfl, -⟩ := Prod.mk.inj (Option.some_inj.1 h)
    exact fun c hc => List.mem_takeWhile_imp hc

/-- A number that is read keeps to the limit of digits. -/
theorem fits_of_value {token : NumberToken} {v : Json}
    (hwhole : ∀ c ∈ token.whole, isAsciiDigit c = true) (h : token.value = .ok v) :
    Fits depth v := by
  unfold NumberToken.value at h
  split at h
  · split at h
    · cases h
    · rename_i hshort
      obtain rfl := Except.ok.inj h
      have hle : 10 ^ token.whole.length ≤ 10 ^ Numeral.digitLimit :=
        Nat.pow_le_pow_right (by decide) (Nat.le_of_not_lt hshort)
      have hlt := Nat.lt_of_lt_of_le (digitsValue_lt hwhole) hle
      refine .int ?_
      split <;> simpa using hlt
  · obtain rfl := Except.ok.inj h
    exact .real _

theorem fits_of_splitWord? {s rest : List Char} {v : Json} (h : splitWord? s = some (v, rest)) :
    Fits depth v := by
  obtain ⟨⟨w, u⟩, hw, hlead⟩ := List.exists_of_findSome?_eq_some h
  obtain ⟨r, -, hpair⟩ := Option.map_eq_some_iff.1 hlead
  obtain ⟨rfl, -⟩ := Prod.mk.inj hpair
  simp only [wordValues, List.mem_cons, Prod.mk.injEq, List.not_mem_nil, or_false] at hw
  rcases hw with ⟨-, rfl⟩ | ⟨-, rfl⟩ | ⟨-, rfl⟩ | ⟨-, rfl⟩ | ⟨-, rfl⟩ | ⟨-, rfl⟩
  · exact .null
  · exact .bool _
  · exact .bool _
  · exact .real _
  · exact .real _
  · exact .real _

theorem forall_mem_put {κ ν : Type} [DecidableEq κ] {P : ν → Prop} {k : κ} {v : ν}
    {m : List (κ × ν)} (hv : P v) (hm : ∀ e ∈ m, P e.2) : ∀ e ∈ Assoc.put k v m, P e.2 := by
  induction m with
  | nil => simpa [Assoc.put] using hv
  | cons e m ih =>
    obtain ⟨he, hm⟩ := List.forall_mem_cons.1 hm
    rw [Assoc.put]
    split
    · exact List.forall_mem_cons.2 ⟨hv, hm⟩
    · exact List.forall_mem_cons.2 ⟨he, ih hm⟩

theorem forall_mem_ofList {κ ν : Type} [DecidableEq κ] {P : ν → Prop} {entries : List (κ × ν)}
    (h : ∀ e ∈ entries, P e.2) : ∀ e ∈ Assoc.ofList entries, P e.2 := by
  have hall : ∀ (entries into : List (κ × ν)), (∀ e ∈ entries, P e.2) → (∀ e ∈ into, P e.2) →
      ∀ e ∈ Assoc.putAll entries into, P e.2 := by
    intro entries
    induction entries with
    | nil => exact fun into _ hinto => hinto
    | cons e entries ih =>
      intro into hentries hinto
      obtain ⟨he, hentries⟩ := List.forall_mem_cons.1 hentries
      exact ih _ hentries (forall_mem_put he hinto)
  exact hall entries [] h (by simp)

/-- What is read with some steps left keeps to the limits. -/
structure ReadsFit (fuel : Nat) : Prop where
  value : ∀ {depth : Nat} {s rest : List Char} {v : Json},
    readValue fuel depth s = .ok (v, rest) → Fits depth v
  elements : ∀ {depth : Nat} {s rest : List Char} {vs : List Json},
    readElements fuel depth s = .ok (vs, rest) → ∀ v ∈ vs, Fits depth v
  members : ∀ {depth : Nat} {s rest : List Char} {ms : List (String × Json)},
    readMembers fuel depth s = .ok (ms, rest) → ∀ m ∈ ms, Fits depth m.2

namespace ReadsFit

variable {fuel : Nat} {s rest : List Char}

theorem readValue_succ (ih : ReadsFit fuel) {v : Json}
    (h : readValue (fuel + 1) depth s = .ok (v, rest)) : Fits depth v := by
  unfold readValue at h
  split at h
  · cases h
  split at h
  · obtain ⟨⟨t, rest'⟩, -, hpair⟩ := exists_of_map_eq_ok h
    obtain ⟨rfl, -⟩ := Prod.mk.inj hpair
    exact .str _
  split at h
  · split at h
    · cases h
    split at h
    · obtain ⟨rfl, -⟩ := Prod.mk.inj (Except.ok.inj h)
      exact .obj (by simp)
    · obtain ⟨⟨ms, rest'⟩, hread, hpair⟩ := exists_of_map_eq_ok h
      obtain ⟨rfl, -⟩ := Prod.mk.inj hpair
      exact .obj (forall_mem_ofList (ih.members hread))
  split at h
  · split at h
    · cases h
    split at h
    · obtain ⟨rfl, -⟩ := Prod.mk.inj (Except.ok.inj h)
      exact .arr (by simp)
    · obtain ⟨⟨vs, rest'⟩, hread, hpair⟩ := exists_of_map_eq_ok h
      obtain ⟨rfl, -⟩ := Prod.mk.inj hpair
      exact .arr (ih.elements hread)
  split at h
  · rename_i hword
    obtain rfl := Except.ok.inj h
    exact fits_of_splitWord? hword
  split at h
  · rename_i hnumber
    obtain ⟨w, hvalue, hpair⟩ := exists_of_map_eq_ok h
    obtain ⟨rfl, -⟩ := Prod.mk.inj hpair
    exact fits_of_value (whole_of_splitNumber? hnumber) hvalue
  · cases h

theorem readElements_succ (ih : ReadsFit fuel) {vs : List Json}
    (h : readElements (fuel + 1) depth s = .ok (vs, rest)) : ∀ v ∈ vs, Fits depth v := by
  unfold readElements at h
  split at h
  · cases h
  rename_i v r hvalue
  have hfirst := ih.value hvalue
  split at h
  · obtain ⟨rfl, -⟩ := Prod.mk.inj (Except.ok.inj h)
    exact List.forall_mem_singleton.2 hfirst
  · obtain ⟨⟨vs', rest'⟩, hread, hpair⟩ := exists_of_map_eq_ok h
    obtain ⟨rfl, -⟩ := Prod.mk.inj hpair
    exact List.forall_mem_cons.2 ⟨hfirst, ih.elements hread⟩
  · cases h

theorem readMembers_succ (ih : ReadsFit fuel) {ms : List (String × Json)}
    (h : readMembers (fuel + 1) depth s = .ok (ms, rest)) : ∀ m ∈ ms, Fits depth m.2 := by
  unfold readMembers at h
  split at h
  · split at h
    · cases h
    split at h
    · split at h
      · cases h
      rename_i v r' hvalue
      have hfirst := ih.value hvalue
      dsimp only at h
      split at h
      · obtain ⟨rfl, -⟩ := Prod.mk.inj (Except.ok.inj h)
        exact List.forall_mem_singleton.2 hfirst
      · obtain ⟨⟨ms', rest'⟩, hread, hpair⟩ := exists_of_map_eq_ok h
        obtain ⟨rfl, -⟩ := Prod.mk.inj hpair
        exact List.forall_mem_cons.2 ⟨hfirst, ih.members hread⟩
      · cases h
    · cases h
  · cases h

end ReadsFit

/-- Whatever is read keeps to the limits. -/
theorem readsFit (fuel : Nat) : ReadsFit fuel := by
  induction fuel with
  | zero =>
    constructor
    · intro depth s rest v h
      unfold readValue at h
      cases h
    · intro depth s rest vs h
      unfold readElements at h
      cases h
    · intro depth s rest ms h
      unfold readMembers at h
      cases h
  | succ fuel ih => exact ⟨ih.readValue_succ, ih.readElements_succ, ih.readMembers_succ⟩

/-- A document keeps to the limits. -/
theorem fits_of_readL {s : List Char} {v : Json} (h : readL s = .ok v) : v.Fits nestingLimit := by
  obtain ⟨rest, hvalue, -⟩ := readValue_of_readL h
  exact (readsFit _).value hvalue

/-- The elements of a document that is an array keep to them too. -/
theorem fits_of_mem_readL {s : List Char} {elements : List Json} (h : readL s = .ok (.arr elements)) :
    ∀ v ∈ elements, v.Fits nestingLimit :=
  fun v hv => (fits_arr_iff.1 (fits_of_readL h) v hv).succ

end InlineReview.Json
