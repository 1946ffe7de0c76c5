import InlineReview.Proofs.Run.Deeds

/-!
# Heeding a cancellation

A run heeds its token if it asks and lints only while that is not cancelled, and if it goes on with
nothing but entries once it has noticed a cancellation, which is then its failure.  It notices one
where it looks at the token, and where it waits for a reply that the cancellation overtakes.

* `Heeds.append` — one part of a run after another.
* `Guarded.not_isGuarded`, `Heeds.stopped_of_poll` — what follows a cancellation.
* `Does.bind_heeds`, `Does.checked` — what heeds the token, before something else and after a look
  at it.
* `Attends.bind`, `Attends.tryCatch`, `Attends.timed` — actions put together.
* `Call.attends_within`, `Call.attends_perform` — calls.
-/

namespace InlineReview

/-! ## Deeds that heed the token -/

namespace Deed

/-- Is a deed nothing but entries? -/
def IsWrite : Deed → Prop
  | .write _ => True
  | _ => False

/-- Is a deed done only while the token is not cancelled? -/
def IsGuarded : Deed → Prop
  | .ask _ _ => True
  | .lint _ _ => True
  | _ => False

/-- The reason of the cancellation that is noticed with a deed. -/
def stops? (w : World) : Deed → Option String
  | .poll => if w.token.isCancelled then some w.token.reasonText else none
  | .ask timeout q =>
    if (w.race timeout q).1 = .cancellation then
      some ((Deed.ask timeout q).done w).token.reasonText
    else none
  | _ => none

theorem IsWrite.not_isGuarded {d : Deed} (h : d.IsWrite) : ¬ d.IsGuarded := by
  cases d <;> simp_all [IsWrite, IsGuarded]

theorem IsWrite.stops?_eq {d : Deed} (h : d.IsWrite) (w : World) : d.stops? w = none := by
  cases d <;> simp_all [IsWrite, stops?]

theorem IsWrite.token_done {d : Deed} (h : d.IsWrite) (w : World) :
    (d.done w).token = w.token := by
  cases d <;> simp_all [IsWrite, done]

end Deed

/-- The reason of the cancellation with which an action fails. -/
def Run.stopReason? {α : Type} : Except Failure α → Option String
  | .error (.cancelled reason) => some reason
  | _ => none

/-- The cancellation is in the failure alone. -/
theorem Run.stopReason?_error {α β : Type} (e : Failure) :
    stopReason? (.error e : Except Failure α) = stopReason? (.error e : Except Failure β) := by
  cases e <;> rfl

/-- Do deeds heed the token?  Those that are guarded are done while it is not cancelled, and only
entries follow where a cancellation is noticed, whose reason is that of the end. -/
def Heeds (stopped : Option String) : World → List Deed → Prop
  | _, [] => True
  | w, d :: ds =>
    (d.IsGuarded → w.token.isCancelled = false) ∧
      (∀ reason, d.stops? w = some reason → stopped = some reason ∧ ∀ e ∈ ds, e.IsWrite) ∧
      Heeds stopped (d.done w) ds

namespace Heeds

variable {stopped : Option String} {w : World} {ds : List Deed}

theorem of_forall_isWrite (h : ∀ d ∈ ds, d.IsWrite) : Heeds stopped w ds := by
  induction ds generalizing w with
  | nil => trivial
  | cons d ds ih =>
    have hd : d.IsWrite := h d (by simp)
    have hds : ∀ e ∈ ds, e.IsWrite := fun e he => h e (by simp [he])
    refine ⟨fun hguarded => absurd hguarded hd.not_isGuarded, fun reason hreason => ?_, ih hds⟩
    rw [hd.stops?_eq] at hreason
    cases hreason

/-- One part after another: what follows a part that has been stopped is stopped too, and goes on
with nothing but entries. -/
theorem append {first : Option String} {es : List Deed} (h : Heeds first w ds)
    (hes : Heeds stopped (w.after ds) es)
    (hstop : ∀ reason, first = some reason → stopped = some reason ∧ ∀ e ∈ es, e.IsWrite) :
    Heeds stopped w (ds ++ es) := by
  induction ds generalizing w with
  | nil => exact hes
  | cons d ds ih =>
    obtain ⟨hguarded, hnotices, hrest⟩ := h
    refine ⟨hguarded, fun reason hreason => ?_, ih hrest hes⟩
    obtain ⟨hfirst, hwrites⟩ := hnotices reason hreason
    obtain ⟨hstopped, hafter⟩ := hstop reason hfirst
    exact ⟨hstopped, List.forall_mem_append.2 ⟨hwrites, hafter⟩⟩

/-- What follows a part that has not been stopped. -/
theorem append_of_none {es : List Deed} (h : Heeds none w ds)
    (hes : Heeds stopped (w.after ds) es) : Heeds stopped w (ds ++ es) :=
  h.append hes fun _ hreason => nomatch hreason

/-- Entries heed the token wherever they stand. -/
theorem write {entries : List Entry} (h : Heeds stopped (w.after [.write entries]) ds) :
    Heeds stopped w (.write entries :: ds) :=
  ⟨fun hguarded => hguarded.elim, fun _ hreason => (nomatch hreason), h⟩

/-- What is known of a deed in its place. -/
theorem split {before after : List Deed} {d : Deed} (h : Heeds stopped w (before ++ d :: after)) :
    (d.IsGuarded → (w.after before).token.isCancelled = false) ∧
      ∀ reason, d.stops? (w.after before) = some reason →
        stopped = some reason ∧ ∀ e ∈ after, e.IsWrite := by
  induction before generalizing w with
  | nil => exact ⟨h.1, h.2.1⟩
  | cons e before ih => exact ih h.2.2

/-- A cancellation that comes before the token is looked at stops the run there. -/
theorem stopped_of_poll {before middle after : List Deed} {reason : String}
    (h : Heeds stopped w (before ++ (middle ++ .poll :: after)))
    (hreason : (w.after before).token.reason = some reason) :
    stopped = some (w.after before).token.reasonText ∧ ∀ d ∈ after, d.IsWrite := by
  rw [← List.append_assoc] at h
  refine h.split.2 _ ?_
  have htoken : (w.after (before ++ middle)).token = (w.after before).token := by
    rw [World.after_append, World.token_after_of_cancelled hreason]
  have hcancelled : (w.after (before ++ middle)).token.isCancelled = true := by
    rw [htoken, Token.isCancelled, hreason]
    rfl
  rw [Deed.stops?, if_pos hcancelled, htoken]

end Heeds

/-- Are deeds that are guarded done only while the token is not cancelled?  What is done after a
cancellation has been noticed is left open. -/
def Guarded : World → List Deed → Prop
  | _, [] => True
  | w, d :: ds => (d.IsGuarded → w.token.isCancelled = false) ∧ Guarded (d.done w) ds

theorem Heeds.guarded {stopped : Option String} {w : World} {ds : List Deed}
    (h : Heeds stopped w ds) : Guarded w ds := by
  induction ds generalizing w with
  | nil => trivial
  | cons d ds ih => exact ⟨h.1, ih h.2.2⟩

namespace Guarded

variable {w : World} {ds es : List Deed}

theorem append_iff : Guarded w (ds ++ es) ↔ Guarded w ds ∧ Guarded (w.after ds) es := by
  induction ds generalizing w with
  | nil => simp [Guarded]
  | cons d ds ih => simp only [List.cons_append, Guarded, ih, and_assoc, World.after_cons]

/-- Nothing that is guarded is done after a cancellation. -/
theorem not_isGuarded {before after : List Deed} {reason : String}
    (h : Guarded w (before ++ after)) (hreason : (w.after before).token.reason = some reason) :
    ∀ d ∈ after, ¬ d.IsGuarded := by
  intro d hd hguarded
  obtain ⟨front, back, rfl⟩ := List.append_of_mem hd
  have hthere := (append_iff.1 (append_iff.1 h).2).2
  have hcalm : ((w.after before).after front).token.isCancelled = false := hthere.1 hguarded
  rw [World.token_after_of_cancelled hreason, Token.isCancelled, hreason] at hcalm
  cases hcalm

end Guarded

/-! ## Actions that heed the token -/

namespace Run

variable {α β : Type}

/-- Does an action write nothing but entries? -/
def IsMute (x : Run α) : Prop := x.Does fun _ ds _ => ∀ d ∈ ds, d.IsWrite

/-- Does an action heed the token, and do nothing but what `K` allows and entries? -/
def Attends (x : Run α) (K : Deed → Prop) : Prop :=
  x.Does fun w ds res => Heeds (stopReason? res) w ds ∧ ∀ d ∈ ds, d.IsWrite ∨ K d

section Mute

variable {x : Run α}

theorem isMute_pure (a : α) : (pure a : Run α).IsMute :=
  (does_pure a).imp fun _ ds _ h => by simp [h.1]

theorem isMute_throw (e : Failure) : (throw e : Run α).IsMute :=
  (does_throw e).imp fun _ ds _ h => by simp [h.1]

theorem isMute_ofExcept {ε : Type} (wrap : ε → Failure) (r : Except ε α) :
    (ofExcept wrap r).IsMute :=
  (does_ofExcept wrap r).imp fun _ ds _ h => by simp [h.1]

theorem isMute_get : (get : Run World).IsMute :=
  does_get.imp fun _ ds _ h => by simp [h.1]

theorem isMute_note (c : Context) (l : Level) (m : String) : (note c l m).IsMute := by
  refine (does_note c l m).imp ?_
  rintro w ds res ⟨⟨entries, rfl⟩, -⟩
  simp [Deed.IsWrite]

theorem isMute_noteFailure (c : Context) (m : String) (error : Option String) :
    (noteFailure c m error).IsMute := by
  cases error <;> exact isMute_note c .error _

theorem isMute_ofNoting {ε : Type} (wrap : ε → Failure) (r : Noting ε α) :
    (ofNoting wrap r).IsMute := by
  refine (does_ofNoting wrap r).imp ?_
  rintro w ds res ⟨⟨entries, rfl⟩, -⟩
  simp [Deed.IsWrite]

theorem IsMute.bind {f : α → Run β} (hx : x.IsMute) (hf : ∀ a, (f a).IsMute) :
    (x >>= f).IsMute :=
  does_bind_of_append hx hf fun _ _ _ hbefore hafter => List.forall_mem_append.2 ⟨hbefore, hafter⟩

theorem IsMute.attends (hx : x.IsMute) (K : Deed → Prop) : x.Attends K :=
  Does.imp hx fun _ _ _ h => ⟨.of_forall_isWrite h, fun d hd => .inl (h d hd)⟩

end Mute

section Rules

variable {K K' : Deed → Prop} {x : Run α}

/-- Actions that heed the token do so one after another: what has failed is followed by nothing,
and what has not failed has not been stopped. -/
theorem Does.bind_heeds {P : World → List Deed → Except Failure α → Prop}
    {Q : α → World → List Deed → Except Failure β → Prop} {f : α → Run β}
    (hx : x.Does fun w ds res => Heeds (stopReason? res) w ds ∧ P w ds res)
    (hf : ∀ a, (f a).Does fun w ds res => Heeds (stopReason? res) w ds ∧ Q a w ds res) :
    (x >>= f).Does fun w ds res => Heeds (stopReason? res) w ds ∧
      ((∃ e, P w ds (.error e) ∧ res = .error e) ∨
        ∃ a before after, ds = before ++ after ∧ P w before (.ok a) ∧
          Q a (w.after before) after res) := by
  refine (Does.bind hx hf).imp ?_
  rintro w ds res (⟨e, ⟨hheeds, hp⟩, rfl⟩ | ⟨a, before, after, rfl, ⟨hheeds, hp⟩, hheeds', hq⟩)
  · rw [stopReason?_error e] at hheeds
    exact ⟨hheeds, .inl ⟨e, hp, rfl⟩⟩
  · exact ⟨hheeds.append_of_none hheeds', .inr ⟨a, before, after, rfl, hp, hq⟩⟩

theorem Attends.imp (hx : x.Attends K) (h : ∀ d, K d → K' d) : x.Attends K' :=
  Does.imp hx fun _ _ _ hds => ⟨hds.1, fun d hd => (hds.2 d hd).imp_right (h d)⟩

/-- What follows a success, or the failure alone. -/
theorem Attends.bind {f : α → Run β} (hx : x.Attends K) (hf : ∀ a, (f a).Attends K) :
    (x >>= f).Attends K := by
  refine (Does.bind_heeds hx hf).imp ?_
  rintro w ds res ⟨hheeds, ⟨e, hkinds, -⟩ | ⟨a, before, after, rfl, hbefore, hafter⟩⟩
  · exact ⟨hheeds, hkinds⟩
  · exact ⟨hheeds, List.forall_mem_append.2 ⟨hbefore, hafter⟩⟩

theorem Attends.map (f : α → β) (hx : x.Attends K) : (f <$> x).Attends K := by
  have hbind := hx.bind fun a => (isMute_pure (f a)).attends K
  rwa [map_eq_pure_bind]

/-- A cancellation that is passed on. -/
theorem does_passOn (reason : String) :
    (throw (.cancelled reason) : Run α).Does fun _ ds res =>
      (∀ d ∈ ds, d.IsWrite) ∧ res = .error (.cancelled reason) :=
  (does_throw (.cancelled reason)).imp fun _ ds _ h => ⟨by simp [h.1], h.2⟩

/-- A handler may make what it likes of a failure, but passes a cancellation on. -/
theorem Attends.tryCatch {handler : Failure → Run α} (hx : x.Attends K)
    (hh : ∀ e, (handler e).Attends K)
    (hpass : ∀ reason, (handler (.cancelled reason)).Does fun _ ds res =>
      (∀ d ∈ ds, d.IsWrite) ∧ res = .error (.cancelled reason)) :
    (tryCatch x handler).Attends K := by
  have hhandler : ∀ e, (handler e).Does fun w ds res =>
      (Heeds (stopReason? res) w ds ∧ ∀ d ∈ ds, d.IsWrite ∨ K d) ∧
        ∀ reason, e = .cancelled reason →
          (∀ d ∈ ds, d.IsWrite) ∧ res = .error (.cancelled reason) := by
    intro e
    by_cases he : ∃ reason, e = .cancelled reason
    · obtain ⟨reason, rfl⟩ := he
      refine (hpass reason).imp fun w ds res h => ?_
      refine ⟨⟨.of_forall_isWrite h.1, fun d hd => .inl (h.1 d hd)⟩, fun other hother => ?_⟩
      obtain rfl : reason = other := Failure.cancelled.inj hother
      exact h
    · refine Does.imp (hh e) fun w ds res h => ⟨h, fun reason hreason => ?_⟩
      exact absurd ⟨reason, hreason⟩ he
  refine (Does.tryCatch hx hhandler).imp ?_
  rintro w ds res (⟨a, h, rfl⟩ | ⟨e, before, after, rfl, hbefore, hafter, hcancelled⟩)
  · exact h
  · refine ⟨hbefore.1.append hafter.1 fun reason hreason => ?_,
      List.forall_mem_append.2 ⟨hbefore.2, hafter.2⟩⟩
    have he : e = .cancelled reason := by
      cases e <;> cases hreason
      rfl
    obtain ⟨hwrites, rfl⟩ := hcancelled reason he
    exact ⟨rfl, hwrites⟩

/-- An action that is timed heeds the token as it does alone. -/
theorem Attends.timed (c : Context) (operation : String) (hx : x.Attends K) :
    (timed c operation x).Attends K := by
  refine (Does.timed c operation hx).imp ?_
  rintro w ds res ⟨started, deeds, ended, rfl, hheeds, hkinds⟩
  have hended : Heeds (stopReason? res) ((w.after [.write started]).after deeds) [.write ended] :=
    .of_forall_isWrite (by simp [Deed.IsWrite])
  have hboth := hheeds.append hended fun reason hreason => ⟨hreason, by simp [Deed.IsWrite]⟩
  refine ⟨hboth.write, fun d hd => ?_⟩
  rcases List.mem_cons.1 hd with rfl | hd
  · exact .inl trivial
  · rcases List.mem_append.1 hd with hd | hd
    · exact hkinds d hd
    · rw [List.mem_singleton.1 hd]
      exact .inl trivial

/-- Does an action do nothing but what `K` allows and entries, and that only as far as the token
allows it? -/
def Guards (x : Run α) (K : Deed → Prop) : Prop :=
  x.Does fun w ds _ => Guarded w ds ∧ ∀ d ∈ ds, d.IsWrite ∨ K d

/-- What guards the token, and does nothing but what is allowed, part by part does so as a whole. -/
theorem guarded_append {w : World} {ds es : List Deed}
    (h : Guarded w ds ∧ ∀ d ∈ ds, d.IsWrite ∨ K d)
    (h' : Guarded (w.after ds) es ∧ ∀ d ∈ es, d.IsWrite ∨ K d) :
    Guarded w (ds ++ es) ∧ ∀ d ∈ ds ++ es, d.IsWrite ∨ K d :=
  ⟨Guarded.append_iff.2 ⟨h.1, h'.1⟩, List.forall_mem_append.2 ⟨h.2, h'.2⟩⟩

theorem Attends.guards (hx : x.Attends K) : x.Guards K :=
  Does.imp hx fun _ _ _ h => ⟨h.1.guarded, h.2⟩

theorem Guards.imp (hx : x.Guards K) (h : ∀ d, K d → K' d) : x.Guards K' :=
  Does.imp hx fun _ _ _ hds => ⟨hds.1, fun d hd => (hds.2 d hd).imp_right (h d)⟩

theorem Guards.bind {f : α → Run β} (hx : x.Guards K) (hf : ∀ a, (f a).Guards K) :
    (x >>= f).Guards K :=
  does_bind_of_append hx hf fun _ _ _ hbefore hafter => guarded_append hbefore hafter

theorem Guards.map (f : α → β) (hx : x.Guards K) : (f <$> x).Guards K := by
  have hbind := hx.bind fun a => ((isMute_pure (f a)).attends K).guards
  rwa [map_eq_pure_bind]

theorem Guards.tryCatch {handler : Failure → Run α} (hx : x.Guards K)
    (hh : ∀ e, (handler e).Guards K) : (tryCatch x handler).Guards K :=
  does_tryCatch_of_append hx hh fun _ _ _ hbefore hafter => guarded_append hbefore hafter

end Rules

/-- What a look at the token gives. -/
theorem heeds_poll {w : World} {res : Except Failure Unit}
    (h : res = if w.token.isCancelled then .error (.cancelled w.token.reasonText) else .ok ()) :
    Heeds (stopReason? res) w [.poll] := by
  refine ⟨by simp [Deed.IsGuarded], fun reason hreason => ?_, trivial⟩
  by_cases hcancelled : w.token.isCancelled = true
  · rw [Deed.stops?, if_pos hcancelled] at hreason
    rw [h, if_pos hcancelled, ← Option.some.inj hreason]
    exact ⟨rfl, by simp⟩
  · rw [Deed.stops?, if_neg hcancelled] at hreason
    cases hreason

/-- A look at the token, and then what heeds it as long as it is not cancelled before. -/
theorem Does.checked {P : World → List Deed → Except Failure α → Prop} {x : Run α} (hx : x.Does P)
    (hcalm : ∀ w ds res, w.token.isCancelled = false → P w ds res →
      Heeds (stopReason? res) w ds) :
    (checkCancelled >>= fun _ => x).Does fun w ds res => Heeds (stopReason? res) w ds ∧
      ((∃ e, ds = [.poll] ∧ res = .error e) ∨ ∃ rest, ds = .poll :: rest ∧ P w rest res) := by
  refine (does_checkCancelled.bind fun _ => hx).imp ?_
  rintro w ds res (⟨e, ⟨rfl, he⟩, rfl⟩ | ⟨_, before, rest, rfl, ⟨rfl, hok⟩, hp⟩)
  · have hpoll := heeds_poll he
    rw [stopReason?_error e] at hpoll
    exact ⟨hpoll, .inl ⟨e, rfl, rfl⟩⟩
  · have hnot : w.token.isCancelled = false := by
      cases hcancelled : w.token.isCancelled with
      | false => rfl
      | true =>
        rw [if_pos hcancelled] at hok
        cases hok
    exact ⟨(heeds_poll hok).append_of_none (hcalm w rest res hnot hp), .inr ⟨rest, rfl, hp⟩⟩

end Run

namespace Call

variable {α : Type}

/-- The deeds of a call under a deadline. -/
def IsAsking (call : Call α) (timeout : Option Seconds) (d : Deed) : Prop :=
  d = .poll ∨ ∃ q, call.request = .ok q ∧ d = .ask timeout q

/-- A guarded call heeds the token. -/
theorem attends_within (call : Call α) (timeout : Option Seconds) :
    (Run.within true timeout call.start).Attends (call.IsAsking timeout) := by
  refine (does_within call timeout).imp ?_
  intro w ds res h
  cases h with
  | stopped hcancelled =>
    refine ⟨⟨by simp [Deed.IsGuarded], fun reason hreason => ?_, trivial⟩, by simp [IsAsking]⟩
    rw [Deed.stops?, if_pos hcancelled] at hreason
    rw [← Option.some.inj hreason]
    exact ⟨rfl, by simp⟩
  | unasked hcalm e =>
    refine ⟨⟨by simp [Deed.IsGuarded], fun reason hreason => ?_, trivial⟩, by simp [IsAsking]⟩
    rw [Deed.stops?, if_neg (by simp [hcalm])] at hreason
    cases hreason
  | asked hcalm q hrequest res hres =>
    refine ⟨⟨by simp [Deed.IsGuarded], fun reason hreason => ?_, fun _ => hcalm,
      fun reason hreason => ?_, trivial⟩, by simp [IsAsking, hrequest]⟩
    · rw [Deed.stops?, if_neg (by simp [hcalm])] at hreason
      cases hreason
    · by_cases hrace : (w.race timeout q).1 = .cancellation
      · have hstops : (Deed.ask timeout q).stops? w =
            some ((Deed.ask timeout q).done w).token.reasonText := by
          rw [Deed.stops?, if_pos hrace]
        obtain rfl := Option.some.inj (hstops.symm.trans hreason)
        rw [hres hrace]
        exact ⟨rfl, by simp⟩
      · have hstops : (Deed.ask timeout q).stops? w = none := by
          rw [Deed.stops?, if_neg hrace]
        cases hstops.symm.trans hreason

/-- A call that is waited for pays no heed to the token. -/
theorem attends_perform (call : Call α) :
    call.perform.Attends fun d => ∃ q, call.request = .ok q ∧ d = .perform q := by
  refine call.does_perform.imp ?_
  rintro w ds res (rfl | ⟨q, hrequest, rfl⟩)
  · exact ⟨trivial, by simp⟩
  · exact ⟨⟨by simp [Deed.IsGuarded], by simp [Deed.stops?], trivial⟩, by simp [hrequest]⟩

end Call

end InlineReview
