import InlineReview.Run

/-!
# Outcomes of actions

The outcome of an action is the outcomes of its parts, one after the other: what follows a
failure is left out, and a handler takes over in the world that the failure left.

* `outcome_bind`, `outcome_map`, `outcome_tryCatch` — the outcome of what is put together.
* `Agrees` — a result that is told beforehand.
-/

namespace InlineReview.Run

variable {α β : Type}

/-! ## Single actions -/

@[simp] theorem outcome_pure (a : α) (w : World) : (pure a : Run α).outcome w = (.ok a, w) := rfl

@[simp] theorem outcome_throw (e : Failure) (w : World) :
    (throw e : Run α).outcome w = (.error e, w) := rfl

@[simp] theorem outcome_get (w : World) : (get : Run World).outcome w = (.ok w, w) := rfl

@[simp] theorem outcome_set (w v : World) : (set v : Run Unit).outcome w = (.ok (), v) := rfl

@[simp] theorem outcome_note (c : Context) (l : Level) (m : String) (w : World) :
    (note c l m).outcome w =
      (.ok (), { w with journal := w.journal ++ [{ level := l, message := m, context := c }] }) :=
  rfl

@[simp] theorem outcome_pass (seconds : Rat) (w : World) :
    (pass seconds).outcome w = (.ok (), w.pass seconds) := rfl

@[simp] theorem outcome_ofExcept {ε : Type} (wrap : ε → Failure) (x : Except ε α) (w : World) :
    (ofExcept wrap x).outcome w = (x.mapError wrap, w) := by
  cases x <;> rfl

theorem ofExcept_ok_bind {ε : Type} (wrap : ε → Failure) (a : α) (f : α → Run β) :
    (ofExcept wrap (.ok a) >>= f) = f a :=
  pure_bind a f

@[simp] theorem mapError_id (x : Except Failure α) : x.mapError id = x := by
  cases x <;> rfl

theorem exists_of_isOk_bind {ε : Type} {x : Except ε α} {f : α → Except ε β}
    (h : (x >>= f).isOk = true) : ∃ a, x = .ok a ∧ (f a).isOk = true := by
  cases x with
  | error e => cases h
  | ok a => exact ⟨a, rfl, h⟩

theorem exists_of_isOk {ε : Type} {x : Except ε α} (h : x.isOk = true) : ∃ a, x = .ok a := by
  cases x with
  | error e => cases h
  | ok a => exact ⟨a, rfl⟩

theorem toOption_eq_some {ε : Type} {x : Except ε α} {a : α} :
    x.toOption = some a ↔ x = .ok a := by
  cases x <;> simp [Except.toOption]

theorem mapError_eq_ok {ε : Type} {wrap : ε → Failure} {x : Except ε α} {a : α} :
    x.mapError wrap = .ok a ↔ x.toOption = some a := by
  rw [toOption_eq_some]
  cases x with
  | error e => constructor <;> intro h <;> cases h
  | ok b => constructor <;> intro h <;> cases h <;> rfl

theorem outcome_ofNoting {ε : Type} (wrap : ε → Failure) (x : Noting ε α) (w : World) :
    (ofNoting wrap x).outcome w =
      (x.outcome.1.mapError wrap, { w with journal := w.journal ++ x.outcome.2 }) := by
  rcases hx : x.outcome with ⟨result | result, entries⟩ <;> simp only [ofNoting, hx] <;> rfl

/-! ## Actions put together -/

theorem outcome_bind (x : Run α) (f : α → Run β) (w : World) :
    (x >>= f).outcome w =
      match x.outcome w with
      | (.ok a, w₁) => (f a).outcome w₁
      | (.error e, w₁) => (.error e, w₁) := by
  rcases hx : x.outcome w with ⟨result | result, w₁⟩ <;>
    simp only [outcome] at hx ⊢ <;>
    rw [ExceptT.run_bind, StateT.run_bind, hx] <;> rfl

theorem outcome_bind_ok {x : Run α} {f : α → Run β} {a : α} {w w₁ : World}
    (h : x.outcome w = (.ok a, w₁)) : (x >>= f).outcome w = (f a).outcome w₁ := by
  rw [outcome_bind, h]

theorem outcome_bind_error {x : Run α} {f : α → Run β} {e : Failure} {w w₁ : World}
    (h : x.outcome w = (.error e, w₁)) : (x >>= f).outcome w = (.error e, w₁) := by
  rw [outcome_bind, h]

@[simp] theorem outcome_map (f : α → β) (x : Run α) (w : World) :
    (f <$> x).outcome w = ((x.outcome w).1.map f, (x.outcome w).2) := by
  rw [map_eq_pure_bind, outcome_bind]
  obtain ⟨result, w₁⟩ := x.outcome w
  cases result <;> rfl

theorem outcome_tryCatch (x : Run α) (handler : Failure → Run α) (w : World) :
    (tryCatch x handler).outcome w =
      match x.outcome w with
      | (.ok a, w₁) => (.ok a, w₁)
      | (.error e, w₁) => (handler e).outcome w₁ := by
  rcases hx : x.outcome w with ⟨result | result, w₁⟩ <;>
    simp only [outcome] at hx ⊢ <;>
    rw [ExceptT.run_tryCatch, StateT.run_bind, hx] <;> rfl

theorem outcome_tryCatch_ok {x : Run α} {handler : Failure → Run α} {a : α} {w w₁ : World}
    (h : x.outcome w = (.ok a, w₁)) : (tryCatch x handler).outcome w = (.ok a, w₁) := by
  rw [outcome_tryCatch, h]

theorem outcome_tryCatch_error {x : Run α} {handler : Failure → Run α} {e : Failure} {w w₁ : World}
    (h : x.outcome w = (.error e, w₁)) :
    (tryCatch x handler).outcome w = (handler e).outcome w₁ := by
  rw [outcome_tryCatch, h]

/-! ## Results that are told -/

/-- Does a result agree with what is told beforehand?  What it gives is what is told, and it gives
what is told where nothing is in the way. -/
structure Agrees (told : Option α) (free : Prop) (res : Except Failure α) : Prop where
  told_of_ok : ∀ a, res = .ok a → told = some a
  ok_of_told : free → ∀ a, told = some a → res = .ok a

namespace Agrees

variable {told : Option α} {free : Prop} {e : Failure} {a : α}

theorem of_ok (h : told = some a) : Agrees told free (.ok a) where
  told_of_ok b hb := by rw [h, Except.ok.inj hb]
  ok_of_told _ b hb := by rw [Option.some.inj (h.symm.trans hb)]

theorem of_error (h : free → told = none) : Agrees told free (.error e) where
  told_of_ok b hb := by cases hb
  ok_of_told hfree b hb := by rw [h hfree] at hb; cases hb

theorem none_of_error (h : Agrees told free (.error e)) (hfree : free) : told = none := by
  cases htold : told with
  | none => rfl
  | some a => cases h.ok_of_told hfree a htold

theorem imp {free' : Prop} {res : Except Failure α} (h : Agrees told free res)
    (hfree : free' → free) : Agrees told free' res where
  told_of_ok := h.told_of_ok
  ok_of_told hfree' := h.ok_of_told (hfree hfree')

theorem of_mapError {ε : Type} (wrap : ε → Failure) (x : Except ε α) :
    Agrees x.toOption free (x.mapError wrap) where
  told_of_ok _ h := mapError_eq_ok.1 h
  ok_of_told _ _ h := mapError_eq_ok.2 h

end Agrees

end InlineReview.Run
