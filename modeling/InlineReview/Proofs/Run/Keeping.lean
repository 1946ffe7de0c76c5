import InlineReview.Proofs.Run.Deeds

/-!
# Keeping to what is allowed

An action keeps to some entries and some deeds if, in whatever world it is done, it writes no other
entries and does no other deeds, whether it fails or not.  What keeps to them part by part does so
as a whole.

* `Noting.Writes` — computations that write only entries of a kind.
* `Run.Keeps` — actions that keep to entries and deeds.
* `Keeps.bind`, `Keeps.tryCatch`, `Keeps.timed` — actions put together.
* `Deed.forall_entries`, `Deed.forall_requests` — what is found in the world afterwards.
-/

namespace InlineReview

variable {J : Entry → Prop} {K : Deed → Prop}

/-! ## Entries -/

namespace Noting

variable {ε δ α β : Type}

/-- Does a computation write no entries but those of a kind? -/
def Writes (x : Noting ε α) (J : Entry → Prop) : Prop :=
  ∀ before, ∃ es, (x.run.run before).2 = before ++ es ∧ ∀ e ∈ es, J e

theorem writes_of_still {x : Noting ε α} (h : ∀ before, (x.run.run before).2 = before) :
    x.Writes J := fun before => ⟨[], by rw [h, List.append_nil], by simp⟩

theorem writes_pure (a : α) : (pure a : Noting ε α).Writes J := writes_of_still fun _ => rfl

theorem writes_throw (e : ε) : (throw e : Noting ε α).Writes J := writes_of_still fun _ => rfl

theorem writes_ofExcept (wrap : δ → ε) (x : Except δ α) : (ofExcept wrap x).Writes J := by
  cases x with
  | ok a => exact writes_pure a
  | error e => exact writes_throw (wrap e)

theorem writes_note {level : Level} {message : String} (h : J { level, message, context := [] }) :
    (note level message : Noting ε Unit).Writes J :=
  fun _ => ⟨_, rfl, by simpa using h⟩

theorem Writes.bind {x : Noting ε α} {f : α → Noting ε β} (hx : x.Writes J)
    (hf : ∀ a, (f a).Writes J) : (x >>= f).Writes J := by
  intro before
  obtain ⟨es, hes, hall⟩ := hx before
  rw [ExceptT.run_bind, StateT.run_bind]
  generalize x.run.run before = ended at hes
  obtain ⟨e | a, written⟩ := ended
  · exact ⟨es, hes, hall⟩
  · obtain rfl : written = before ++ es := hes
    obtain ⟨more, hmore, hall'⟩ := hf a (before ++ es)
    exact ⟨es ++ more, by rw [← List.append_assoc]; exact hmore,
      List.forall_mem_append.2 ⟨hall, hall'⟩⟩

theorem Writes.adapt (wrap : ε → δ) {x : Noting ε α} (hx : x.Writes J) :
    Writes (ExceptT.adapt wrap x) J := hx

/-- A computation that is done for each of some values. -/
theorem Writes.forIn {γ σ : Type} {f : γ → σ → Noting ε (ForInStep σ)}
    (hf : ∀ c s, (f c s).Writes J) (cs : List γ) (s : σ) :
    Writes (ForIn.forIn cs s f) J := by
  induction cs generalizing s with
  | nil => exact writes_pure s
  | cons c cs ih =>
    rw [List.forIn_cons]
    refine (hf c s).bind fun step => ?_
    cases step with
    | done s' => exact writes_pure s'
    | yield s' => exact ih s'

theorem Writes.outcome {x : Noting ε α} (hx : x.Writes J) : ∀ e ∈ x.outcome.2, J e := by
  obtain ⟨es, hes, hall⟩ := hx []
  intro e he
  refine hall e ?_
  rwa [← List.nil_append es, ← hes]

end Noting

/-! ## Deeds -/

namespace Deed

/-- Is a deed one of a kind, or does it write entries of a kind? -/
def IsWithin (J : Entry → Prop) (K : Deed → Prop) : Deed → Prop
  | .write entries => ∀ e ∈ entries, J e
  | d => K d

/-- The entries that a deed writes. -/
def entries : Deed → List Entry
  | .write entries => entries
  | _ => []

theorem IsWithin.imp {J' : Entry → Prop} {K' : Deed → Prop} {d : Deed} (h : d.IsWithin J K)
    (hJ : ∀ e, J e → J' e) (hK : ∀ d, K d → K' d) : d.IsWithin J' K' := by
  cases d with
  | write entries => exact fun e he => hJ e (h e he)
  | _ => exact hK _ h

/-- The entries of deeds within what is allowed. -/
theorem forall_entries {ds : List Deed} (h : ∀ d ∈ ds, d.IsWithin J K) :
    ∀ e ∈ ds.flatMap Deed.entries, J e := by
  intro e he
  obtain ⟨d, hd, hed⟩ := List.mem_flatMap.1 he
  cases d with
  | write entries => exact h _ hd e hed
  | _ => cases hed

/-- The requests of deeds within what is allowed. -/
theorem forall_requests {ds : List Deed} (h : ∀ d ∈ ds, d.IsWithin J K) :
    ∀ q ∈ ds.filterMap Deed.request?, ∃ d, d.request? = some q ∧ K d := by
  intro q hq
  obtain ⟨d, hd, hdq⟩ := List.mem_filterMap.1 hq
  refine ⟨d, hdq, ?_⟩
  cases d with
  | write entries => cases hdq
  | _ => exact h _ hd

end Deed

namespace World

theorem journal_done (d : Deed) (w : World) : (d.done w).journal = w.journal ++ d.entries := by
  have hreceive : ∀ q, (w.receive q).journal = w.journal := fun q => by
    cases h : q.remote <;> simp [receive, dropReply, interrupt, h]
  have hlint : ∀ l arguments, (w.lint l arguments).journal = w.journal := fun l arguments => by
    unfold lint
    split <;> rfl
  cases d with
  | perform q => exact (hreceive q).trans (List.append_nil _).symm
  | ask timeout q => exact (hreceive q).trans (List.append_nil _).symm
  | lint l arguments => exact (hlint l arguments).trans (List.append_nil _).symm
  | _ => simp [Deed.done, Deed.entries]

/-- What is written is what the deeds write, in their order. -/
theorem journal_after (w : World) (ds : List Deed) :
    (w.after ds).journal = w.journal ++ ds.flatMap Deed.entries := by
  induction ds generalizing w with
  | nil => simp
  | cons d ds ih => rw [after_cons, ih, journal_done, List.append_assoc, List.flatMap_cons]

end World

/-! ## Actions -/

namespace Run

variable {α β : Type} {x : Run α}

/-- Does an action write no entries but those of a kind, and do no other deeds but those of a
kind? -/
def Keeps (x : Run α) (J : Entry → Prop) (K : Deed → Prop) : Prop :=
  x.Does fun _ ds _ => ∀ d ∈ ds, d.IsWithin J K

namespace Keeps

theorem imp {J' : Entry → Prop} {K' : Deed → Prop} (hx : x.Keeps J K) (hJ : ∀ e, J e → J' e)
    (hK : ∀ d, K d → K' d) : x.Keeps J' K' :=
  Does.imp hx fun _ _ _ h d hd => (h d hd).imp hJ hK

theorem bind {f : α → Run β} (hx : x.Keeps J K) (hf : ∀ a, (f a).Keeps J K) :
    (x >>= f).Keeps J K :=
  does_bind_of_append hx hf fun _ _ _ hbefore hafter => List.forall_mem_append.2 ⟨hbefore, hafter⟩

theorem tryCatch {handler : Failure → Run α} (hx : x.Keeps J K) (hh : ∀ e, (handler e).Keeps J K) :
    (tryCatch x handler).Keeps J K :=
  does_tryCatch_of_append hx hh fun _ _ _ hbefore hafter =>
    List.forall_mem_append.2 ⟨hbefore, hafter⟩

end Keeps

theorem keeps_pure (a : α) : (pure a : Run α).Keeps J K :=
  (does_pure a).imp fun _ ds _ h => by simp [h.1]

theorem keeps_throw (e : Failure) : (throw e : Run α).Keeps J K :=
  (does_throw e).imp fun _ ds _ h => by simp [h.1]

theorem keeps_ofExcept {ε : Type} (wrap : ε → Failure) (r : Except ε α) :
    (ofExcept wrap r).Keeps J K :=
  (does_ofExcept wrap r).imp fun _ ds _ h => by simp [h.1]

theorem keeps_get : (get : Run World).Keeps J K := does_get.imp fun _ ds _ h => by simp [h.1]

theorem keeps_note {c : Context} {l : Level} {m : String}
    (h : J { level := l, message := m, context := c }) : (note c l m).Keeps J K :=
  fun _ => ⟨[.write [{ level := l, message := m, context := c }]], rfl, by
    simpa [Deed.IsWithin] using h⟩

theorem keeps_ofNoting {ε : Type} (wrap : ε → Failure) {r : Noting ε α} (h : r.Writes J) :
    (ofNoting wrap r).Keeps J K := by
  intro w
  rw [outcome_ofNoting]
  exact ⟨[.write r.outcome.2], rfl, by simpa [Deed.IsWithin] using h.outcome⟩

theorem Keeps.map (f : α → β) (hx : x.Keeps J K) : (f <$> x).Keeps J K := by
  rw [map_eq_pure_bind]
  exact hx.bind fun a => keeps_pure (f a)

/-- An action that is timed, if the entries before and after it are allowed. -/
theorem Keeps.timed {c : Context} {operation : String} (hx : x.Keeps J K)
    (hstarted : J ⟨.debug, s!"Starting {operation}", c⟩)
    (hcompleted : J ⟨.debug, s!"Completed {operation} in {ownTime}", c⟩)
    (hfailed : ∀ failure : Failure,
      J ⟨.error, s!"Failed {operation} after {ownTime}: {failure.message}", c⟩) :
    (timed c operation x).Keeps J K := by
  refine (keeps_note hstarted).bind fun _ => Keeps.bind ?_ fun a =>
    (keeps_note hcompleted).bind fun _ => keeps_pure a
  exact hx.tryCatch fun failure => (keeps_note (hfailed failure)).bind fun _ => keeps_throw failure

theorem keeps_checkCancelled (hpoll : K .poll) : checkCancelled.Keeps J K :=
  does_checkCancelled.imp fun _ ds _ h => by simpa [h.1, Deed.IsWithin] using hpoll

/-- A call under a deadline looks at the token and asks. -/
theorem keeps_within {call : Call α} {timeout : Option Seconds} (hpoll : K .poll)
    (hask : ∀ q, call.request = .ok q → K (.ask timeout q)) :
    (within true timeout call.start).Keeps J K := by
  refine (call.does_within timeout).imp fun w ds res h => ?_
  cases h with
  | stopped _ => simpa [Deed.IsWithin] using hpoll
  | unasked _ _ => simpa [Deed.IsWithin] using hpoll
  | asked _ q hrequest _ _ => simpa [Deed.IsWithin] using ⟨hpoll, hask q hrequest⟩

/-- A call that is waited for. -/
theorem keeps_perform {call : Call α} (h : ∀ q, call.request = .ok q → K (.perform q)) :
    call.perform.Keeps J K := by
  refine call.does_perform.imp ?_
  rintro w ds res (rfl | ⟨q, hrequest, rfl⟩)
  · simp
  · simpa [Deed.IsWithin] using h q hrequest

end Run

end InlineReview
