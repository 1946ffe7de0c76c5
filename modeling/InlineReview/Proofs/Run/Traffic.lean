import InlineReview.Proofs.Run.Outcome

/-!
# What a run exchanges

The `Traffic` of a world is what a run finds and leaves outside of itself: the files, the replies
to come, the requests and the commands so far, and whether anything can cancel it.  The time, the
token and the journal are not part of it.  `x.Obeys R` says that an action, in whatever world it is
done, leaves the traffic and ends as the relation `R` allows, so that what an action does to the
traffic follows from its parts.

* `Traffic.sendAll` — the traffic after some requests.
* `World.traffic_receive`, `World.traffic_pass` — what nothing can cancel stays so.
* `Obeys.bind`, `Obeys.tryCatch`, `obeys_timed` — actions put together.
-/

namespace InlineReview

/-- What a run finds and leaves outside of itself.  A run is calm if nothing can cancel it. -/
structure Traffic where
  files : FileStore
  hostReplies : List Reply
  modelReplies : List Reply
  lintRuns : List LintRun
  sent : List Request
  commands : List Command
  isCalm : Bool

/-- Can nothing cancel the run?  Nobody else holds its token, and no alarm has been set on it. -/
def World.isCalm (w : World) : Bool :=
  ! w.handlesSignals && ! w.sharesToken && decide (w.token = {})

/-- The traffic of a world. -/
def World.traffic (w : World) : Traffic where
  files := w.files
  hostReplies := w.hostReplies
  modelReplies := w.modelReplies
  lintRuns := w.lintRuns
  sent := w.sent
  commands := w.commands
  isCalm := w.isCalm

namespace Traffic

/-! ## Sending -/

/-- The replies that a service has left. -/
def replies (t : Traffic) : Remote → List Reply
  | .codeHost => t.hostReplies
  | .model => t.modelReplies

/-- The reply that comes for a request. -/
def replyFor (t : Traffic) (q : Request) : Reply :=
  ((t.replies q.remote).head?).getD (Reply.last q.method)

/-- The traffic after a request. -/
def send (t : Traffic) (q : Request) : Traffic :=
  match q.remote with
  | .codeHost => { t with hostReplies := t.hostReplies.tail, sent := t.sent ++ [q] }
  | .model => { t with modelReplies := t.modelReplies.tail, sent := t.sent ++ [q] }

/-- The traffic after some requests. -/
def sendAll (t : Traffic) (qs : List Request) : Traffic := qs.foldl send t

@[simp] theorem sendAll_nil (t : Traffic) : t.sendAll [] = t := rfl

@[simp] theorem sendAll_cons (t : Traffic) (q : Request) (qs : List Request) :
    t.sendAll (q :: qs) = (t.send q).sendAll qs := rfl

theorem sendAll_append (t : Traffic) (qs ps : List Request) :
    t.sendAll (qs ++ ps) = (t.sendAll qs).sendAll ps := by
  rw [sendAll, List.foldl_append]
  rfl

@[simp] theorem files_send (t : Traffic) (q : Request) : (t.send q).files = t.files := by
  cases h : q.remote <;> simp [send, h]

@[simp] theorem lintRuns_send (t : Traffic) (q : Request) : (t.send q).lintRuns = t.lintRuns := by
  cases h : q.remote <;> simp [send, h]

@[simp] theorem commands_send (t : Traffic) (q : Request) : (t.send q).commands = t.commands := by
  cases h : q.remote <;> simp [send, h]

@[simp] theorem isCalm_send (t : Traffic) (q : Request) : (t.send q).isCalm = t.isCalm := by
  cases h : q.remote <;> simp [send, h]

@[simp] theorem sent_send (t : Traffic) (q : Request) : (t.send q).sent = t.sent ++ [q] := by
  cases h : q.remote <;> simp [send, h]

theorem modelReplies_send_model {t : Traffic} {q : Request} (h : q.remote = .model) :
    (t.send q).modelReplies = t.modelReplies.tail := by
  simp [send, h]

theorem modelReplies_send_host {t : Traffic} {q : Request} (h : q.remote = .codeHost) :
    (t.send q).modelReplies = t.modelReplies := by
  simp [send, h]

theorem hostReplies_send_host {t : Traffic} {q : Request} (h : q.remote = .codeHost) :
    (t.send q).hostReplies = t.hostReplies.tail := by
  simp [send, h]

/-- What no request changes is left as it is by all of them. -/
theorem sendAll_eq_of_send {γ : Type} (f : Traffic → γ) (h : ∀ t q, f (t.send q) = f t)
    (t : Traffic) (qs : List Request) : f (t.sendAll qs) = f t := by
  induction qs generalizing t with
  | nil => rfl
  | cons q qs ih => rw [sendAll_cons, ih, h]

@[simp] theorem files_sendAll (t : Traffic) (qs : List Request) :
    (t.sendAll qs).files = t.files := sendAll_eq_of_send files files_send t qs

@[simp] theorem lintRuns_sendAll (t : Traffic) (qs : List Request) :
    (t.sendAll qs).lintRuns = t.lintRuns := sendAll_eq_of_send lintRuns lintRuns_send t qs

@[simp] theorem commands_sendAll (t : Traffic) (qs : List Request) :
    (t.sendAll qs).commands = t.commands := sendAll_eq_of_send commands commands_send t qs

@[simp] theorem isCalm_sendAll (t : Traffic) (qs : List Request) :
    (t.sendAll qs).isCalm = t.isCalm := sendAll_eq_of_send isCalm isCalm_send t qs

@[simp] theorem sent_sendAll (t : Traffic) (qs : List Request) :
    (t.sendAll qs).sent = t.sent ++ qs := by
  induction qs generalizing t with
  | nil => simp
  | cons q qs ih => rw [sendAll_cons, ih, sent_send, List.append_assoc, List.singleton_append]

theorem modelReplies_sendAll_host {t : Traffic} {qs : List Request}
    (h : ∀ q ∈ qs, q.remote = .codeHost) : (t.sendAll qs).modelReplies = t.modelReplies := by
  induction qs generalizing t with
  | nil => rfl
  | cons q qs ih =>
    rw [sendAll_cons, ih fun p hp => h p (by simp [hp]), modelReplies_send_host (h q (by simp))]

end Traffic

/-! ## The traffic of a world -/

namespace World

theorem replyFor_traffic (w : World) (q : Request) : w.traffic.replyFor q = w.replyFor q := by
  cases h : q.remote <;> simp [Traffic.replyFor, replyFor, Traffic.replies, replies, traffic, h]

theorem replyFor_congr {q p : Request} (hremote : q.remote = p.remote)
    (hmethod : q.method = p.method) (w : World) : w.replyFor q = w.replyFor p := by
  rw [replyFor, replyFor, hremote, hmethod]

/-- What happens to the time and the token depends on the reply alone. -/
theorem cancelTime?_receive_congr {q p : Request} (hremote : q.remote = p.remote)
    (hmethod : q.method = p.method) (w : World) :
    (w.receive q).token.cancelTime? (w.receive q).now =
      (w.receive p).token.cancelTime? (w.receive p).now := by
  have hreply := replyFor_congr hremote hmethod w
  cases h : p.remote <;> simp only [receive, dropReply, hreply, hremote, h] <;> rfl

theorem receive_journal (w : World) (q : Request) (journal : List Entry) :
    { w with journal }.receive q = { w.receive q with journal } := by
  cases h : q.remote <;> simp only [receive, dropReply, h] <;> rfl

/-- An interrupt cancels nothing that nobody else holds. -/
theorem isCalm_interrupt (i : Interrupt) (w : World) : (w.interrupt i).isCalm = w.isCalm := by
  rw [isCalm, isCalm, interrupt]
  by_cases hcancels : w.handlesSignals = true ∨ w.sharesToken = true
  · rcases hcancels with h | h <;> simp [h]
  · obtain ⟨hsignals, hshares⟩ := not_or.1 hcancels
    rcases i with ⟨signal, cancel⟩
    cases signal <;> cases cancel <;> simp [hsignals, hshares]

/-- Time cancels nothing without an alarm. -/
theorem isCalm_pass (seconds : Rat) (w : World) : (w.pass seconds).isCalm = w.isCalm := by
  have htoken : w.token.atTime (w.now + seconds) = {} ↔ w.token = {} := by
    unfold Token.atTime
    rcases w.token with ⟨reason, alarms⟩
    cases alarms with
    | nil => rfl
    | cons a rest =>
      refine iff_of_false (fun h => ?_) (by simp)
      have halarms := congrArg Token.alarms h
      revert halarms
      split
      · simp
      · split
        · cases reason <;> simp [Token.cancel]
        · simp
  simp only [isCalm, pass, htoken]

@[simp] theorem traffic_interrupt (i : Interrupt) (w : World) :
    (w.interrupt i).traffic = w.traffic := by
  have h := isCalm_interrupt i w
  simp only [traffic, h]
  rfl

@[simp] theorem traffic_pass (seconds : Rat) (w : World) :
    (w.pass seconds).traffic = w.traffic := by
  have h := isCalm_pass seconds w
  simp only [traffic, h]
  rfl

@[simp] theorem traffic_receive (q : Request) (w : World) :
    (w.receive q).traffic = w.traffic.send q := by
  rw [receive, traffic_interrupt]
  cases h : q.remote <;> simp only [Traffic.send, dropReply, h] <;> rfl

theorem isCalm_receive (q : Request) (w : World) : (w.receive q).isCalm = w.isCalm := by
  have h := congrArg Traffic.isCalm (w.traffic_receive q)
  rwa [Traffic.isCalm_send] at h

/-- A run that will be cancelled is not calm. -/
theorem isCalm_eq_false_of_cancelTime? {w : World} (h : (w.token.cancelTime? w.now).isSome = true) :
    w.isCalm = false := by
  refine Bool.eq_false_iff.2 fun hcalm => ?_
  simp only [isCalm, Bool.and_eq_true, decide_eq_true_eq] at hcalm
  rw [hcalm.2] at h
  cases h

/-- A run that has been cancelled is not calm. -/
theorem isCalm_eq_false_of_isCancelled {w : World} (h : w.token.isCancelled = true) :
    w.isCalm = false :=
  isCalm_eq_false_of_cancelTime? (by rw [Token.cancelTime?, if_pos h]; rfl)

end World

/-! ## Actions and their traffic -/

namespace Run

variable {α β : Type}

/-- Does an action, in every world, leave the traffic and end as a relation allows? -/
def Obeys (x : Run α) (R : Traffic → Except Failure α → Traffic → Prop) : Prop :=
  ∀ w, R w.traffic (x.outcome w).1 (x.outcome w).2.traffic

section Rules

variable {P R : Traffic → Except Failure α → Traffic → Prop} {x : Run α}

theorem Obeys.imp (hx : x.Obeys P) (h : ∀ t res t', P t res t' → R t res t') : x.Obeys R :=
  fun w => h _ _ _ (hx w)

theorem Obeys.and (hx : x.Obeys P) (hr : x.Obeys R) :
    x.Obeys fun t res t' => P t res t' ∧ R t res t' :=
  fun w => ⟨hx w, hr w⟩

/-- Of what comes after the part that matters, nothing need be known. -/
theorem obeys_any (x : Run α) : x.Obeys fun _ _ _ => True := fun _ => trivial

theorem obeys_pure (a : α) : (pure a : Run α).Obeys fun t res t' => res = .ok a ∧ t' = t :=
  fun _ => ⟨rfl, rfl⟩

theorem obeys_throw (e : Failure) :
    (throw e : Run α).Obeys fun t res t' => res = .error e ∧ t' = t :=
  fun _ => ⟨rfl, rfl⟩

theorem obeys_ofNoting {ε : Type} (wrap : ε → Failure) (r : Noting ε α) :
    (ofNoting wrap r).Obeys fun t res t' => res = r.outcome.1.mapError wrap ∧ t' = t :=
  fun w => by
    rw [outcome_ofNoting]
    exact ⟨rfl, rfl⟩

/-- What is done after a success, or the failure alone. -/
theorem Obeys.bind {Q : α → Traffic → Except Failure β → Traffic → Prop} {f : α → Run β}
    (hx : x.Obeys P) (hf : ∀ a, (f a).Obeys (Q a)) :
    (x >>= f).Obeys fun t res t' =>
      (∃ e, P t (.error e) t' ∧ res = .error e) ∨ ∃ a t₁, P t (.ok a) t₁ ∧ Q a t₁ res t' := by
  intro w
  have hstep := hx w
  rcases h : x.outcome w with ⟨e | a, w₁⟩
  · rw [outcome_bind_error h]
    rw [h] at hstep
    exact .inl ⟨e, hstep, rfl⟩
  · rw [outcome_bind_ok h]
    rw [h] at hstep
    exact .inr ⟨a, w₁.traffic, hstep, hf a w₁⟩

theorem Obeys.map (f : α → β) (hx : x.Obeys P) :
    (f <$> x).Obeys fun t res t' => ∃ r, P t r t' ∧ res = r.map f :=
  fun w => by
    rw [outcome_map]
    exact ⟨_, hx w, rfl⟩

/-- A success as it is, or what the handler makes of the failure. -/
theorem Obeys.tryCatch {H : Failure → Traffic → Except Failure α → Traffic → Prop}
    {handler : Failure → Run α} (hx : x.Obeys P) (hh : ∀ e, (handler e).Obeys (H e)) :
    (tryCatch x handler).Obeys fun t res t' =>
      (∃ a, P t (.ok a) t' ∧ res = .ok a) ∨
        ∃ e t₁, P t (.error e) t₁ ∧ H e t₁ res t' := by
  intro w
  have hstep := hx w
  rw [outcome_tryCatch]
  rcases h : x.outcome w with ⟨e | a, w₁⟩
  · rw [h] at hstep
    exact .inr ⟨e, w₁.traffic, hstep, hh e w₁⟩
  · rw [h] at hstep
    exact .inl ⟨a, hstep, rfl⟩

/-- What is done after something has been read from the files. -/
theorem Obeys.reading {ε : Type} {Q : α → Traffic → Except Failure β → Traffic → Prop}
    {f : α → Run β} (wrap : ε → Failure) (g : FileStore → Except ε α)
    (hf : ∀ a, (f a).Obeys (Q a)) :
    (get >>= fun w : World => ofExcept wrap (g w.files) >>= f).Obeys fun t res t' =>
      (∃ e, g t.files = .error e ∧ res = .error (wrap e) ∧ t' = t) ∨
        ∃ a, g t.files = .ok a ∧ Q a t res t' := by
  intro w
  rw [outcome_bind_ok (outcome_get w)]
  cases hread : g w.files with
  | error e => exact .inl ⟨e, hread, rfl, rfl⟩
  | ok a => exact .inr ⟨a, hread, hf a w⟩

end Rules

/-! ## Actions without traffic -/

/-- Does an action always succeed without any traffic? -/
def IsQuiet (x : Run Unit) : Prop := x.Obeys fun t res t' => res = .ok () ∧ t' = t

theorem isQuiet_note (c : Context) (l : Level) (m : String) : (note c l m).IsQuiet :=
  fun _ => ⟨rfl, rfl⟩

theorem isQuiet_noteSuccess (c : Context) (m : String) : (noteSuccess c m).IsQuiet :=
  isQuiet_note c .info _

theorem isQuiet_noteFailure (c : Context) (m : String) (error : Option String) :
    (noteFailure c m error).IsQuiet := by
  cases error <;> exact isQuiet_note c .error _

section Quiet

variable {R : Traffic → Except Failure α → Traffic → Prop} {x : Run α}

/-- What an action without traffic precedes is all there is to see. -/
theorem Obeys.after {q : Run Unit} (hx : x.Obeys R) (hq : q.IsQuiet) :
    (q >>= fun _ => x).Obeys R := by
  refine (hq.bind fun _ => hx).imp fun t res t' h => ?_
  rcases h with ⟨_, ⟨h, _⟩, _⟩ | ⟨_, _, ⟨_, rfl⟩, h⟩
  · cases h
  · exact h

/-- What is noted about a result changes nothing. -/
theorem Obeys.noted {note : α → Run Unit} (hx : x.Obeys R) (hnote : ∀ a, (note a).IsQuiet) :
    (x >>= fun a => note a >>= fun _ => pure a).Obeys R := by
  refine (hx.bind fun a => (obeys_pure a).after (hnote a)).imp fun t res t' h => ?_
  rcases h with ⟨e, h, rfl⟩ | ⟨a, _, h, rfl, rfl⟩
  · exact h
  · exact h

theorem obeys_rethrow {q : Run Unit} (hq : q.IsQuiet) (e : Failure) :
    (q >>= fun _ => (throw e : Run α)).Obeys fun t res t' => res = .error e ∧ t' = t :=
  (obeys_throw e).after hq

/-- Entries before and after an action change neither its result nor its traffic. -/
theorem outcome_timed (c : Context) (operation : String) (x : Run α) (w : World) :
    ∃ journal, ((timed c operation x).outcome w).1 = (x.outcome { w with journal }).1 ∧
      ((timed c operation x).outcome w).2.traffic = (x.outcome { w with journal }).2.traffic := by
  let started : Entry := { level := .debug, message := s!"Starting {operation}", context := c }
  refine ⟨w.journal ++ [started], ?_⟩
  rw [timed, outcome_bind_ok (outcome_note _ _ _ _), outcome_bind, outcome_tryCatch]
  rcases x.outcome { w with journal := w.journal ++ [started] } with ⟨e | a, w₁⟩ <;>
    exact ⟨rfl, rfl⟩

theorem obeys_timed (c : Context) (operation : String) (hx : x.Obeys R) :
    (timed c operation x).Obeys R := by
  intro w
  obtain ⟨journal, hresult, htraffic⟩ := outcome_timed c operation x w
  rw [hresult, htraffic]
  exact hx { w with journal }

theorem obeys_checkCancelled :
    checkCancelled.Obeys fun t res t' => t' = t ∧ (res = .ok () ∨
      (t.isCalm = false ∧ ∃ reason, res = .error (.cancelled reason))) := by
  intro w
  cases h : w.token.isCancelled with
  | false => simp [checkCancelled, outcome_bind, h]
  | true =>
    have hcalm : w.traffic.isCalm = false := World.isCalm_eq_false_of_isCancelled h
    simp [checkCancelled, outcome_bind, h, hcalm]

end Quiet

end Run

end InlineReview
