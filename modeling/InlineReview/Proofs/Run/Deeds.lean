import InlineReview.Proofs.Lint.Starting
import InlineReview.Proofs.Run.Calls

/-!
# What a run does

A run is told here as the list of its `Deed`s: what it writes into the journal, where it looks at
its token, what it sends, and when it starts the linter.  A deed sends at most one request and
starts at most one process, so that the moments between the deeds are the moments of the run.
`x.Does R` says that an action, in whatever world it is done, leaves the world that some deeds
leave, and that these and its result are as the relation `R` allows.

* `World.sent_after`, `World.commands_after` — what is sent and started, deed by deed.
* `World.token_after_of_cancelled` — a token that has been cancelled stays so, with its reason.
* `Does.bind`, `Does.tryCatch`, `Does.timed` — actions put together.
* `does_bind_of_append`, `does_tryCatch_of_append` — what deeds have in every part of a run.
* `Call.does_within`, `Call.does_perform` — what a call does.
-/

namespace InlineReview

/-! ## Deeds -/

/-- What a run does at a moment.  A request is asked if its reply is awaited under a deadline and
the token, and performed if it is waited for as long as it takes. -/
inductive Deed where
  | write (entries : List Entry)
  | listen
  | poll
  | perform (q : Request)
  | ask (timeout : Option Seconds) (q : Request)
  | clear (l : Linter)
  | lint (l : Linter) (arguments : List String)

namespace World

/-- How the wait for the reply to a request ends, and after how many seconds. -/
def race (timeout : Option Seconds) (q : Request) (w : World) : Finish × Rat :=
  Race.finish (w.replyFor q).delay (timeout.bind Seconds.toRat?)
    (((w.receive q).token.cancelTime? (w.receive q).now).map (· - (w.receive q).now))

end World

namespace Deed

/-- The world after a deed. -/
def done : Deed → World → World
  | .write entries, w => { w with journal := w.journal ++ entries }
  | .listen, w => { w with handlesSignals := true }
  | .poll, w => w
  | .perform q, w => (w.receive q).pass (w.replyFor q).delay
  | .ask timeout q, w => (w.receive q).pass (w.race timeout q).2
  | .clear l, w => { w with files := w.files.remove l.report }
  | .lint l arguments, w => w.lint l arguments

/-- The request of a deed. -/
def request? : Deed → Option Request
  | .perform q => some q
  | .ask _ q => some q
  | _ => none

/-- The command of a deed. -/
def command? : Deed → Option Command
  | .lint l arguments => some { arguments, directory := l.directory.text }
  | _ => none

end Deed

/-- The world after some deeds. -/
def World.after (w : World) (ds : List Deed) : World := ds.foldl (fun v d => d.done v) w

namespace World

@[simp] theorem after_nil (w : World) : w.after [] = w := rfl

@[simp] theorem after_cons (w : World) (d : Deed) (ds : List Deed) :
    w.after (d :: ds) = (d.done w).after ds := rfl

@[simp] theorem after_append (w : World) (ds es : List Deed) :
    w.after (ds ++ es) = (w.after ds).after es := by
  rw [after, List.foldl_append]
  rfl

/-! ## What deeds leave -/

@[simp] theorem sent_interrupt (i : Interrupt) (w : World) : (w.interrupt i).sent = w.sent := rfl

@[simp] theorem commands_interrupt (i : Interrupt) (w : World) :
    (w.interrupt i).commands = w.commands := rfl

@[simp] theorem sent_receive (q : Request) (w : World) :
    (w.receive q).sent = w.sent ++ [q] := by
  cases h : q.remote <;> simp [receive, dropReply, h]

@[simp] theorem commands_receive (q : Request) (w : World) :
    (w.receive q).commands = w.commands := by
  cases h : q.remote <;> simp [receive, dropReply, h]

theorem sent_lint (l : Linter) (arguments : List String) (w : World) :
    (w.lint l arguments).sent = w.sent := by
  unfold lint
  split <;> rfl

theorem commands_lint (l : Linter) (arguments : List String) (w : World) :
    (w.lint l arguments).commands =
      w.commands ++ [{ arguments, directory := l.directory.text }] := by
  unfold lint
  split <;> rfl

theorem sent_done (d : Deed) (w : World) : (d.done w).sent = w.sent ++ d.request?.toList := by
  cases d with
  | perform q => exact w.sent_receive q
  | ask timeout q => exact w.sent_receive q
  | lint l arguments => exact (w.sent_lint l arguments).trans (List.append_nil _).symm
  | _ => simp [Deed.done, Deed.request?]

theorem commands_done (d : Deed) (w : World) :
    (d.done w).commands = w.commands ++ d.command?.toList := by
  cases d with
  | perform q => exact (w.commands_receive q).trans (List.append_nil _).symm
  | ask timeout q => exact (w.commands_receive q).trans (List.append_nil _).symm
  | lint l arguments => exact w.commands_lint l arguments
  | _ => simp [Deed.done, Deed.command?]

/-- What is sent is what the deeds send, in their order. -/
theorem sent_after (w : World) (ds : List Deed) :
    (w.after ds).sent = w.sent ++ ds.filterMap Deed.request? := by
  induction ds generalizing w with
  | nil => simp
  | cons d ds ih =>
    rw [after_cons, ih, sent_done, List.append_assoc, List.filterMap_cons]
    cases d.request? <;> rfl

/-- What is started is what the deeds start, in their order. -/
theorem commands_after (w : World) (ds : List Deed) :
    (w.after ds).commands = w.commands ++ ds.filterMap Deed.command? := by
  induction ds generalizing w with
  | nil => simp
  | cons d ds ih =>
    rw [after_cons, ih, commands_done, List.append_assoc, List.filterMap_cons]
    cases d.command? <;> rfl

end World

/-! ## Cancelled tokens -/

namespace Token

variable {t : Token} {reason : String}

theorem cancel_of_cancelled (h : t.reason = some reason) (second : String) :
    t.cancel second = t := by
  rw [cancel, h]

theorem atTime_of_cancelled (h : t.reason = some reason) (now : Rat) : t.atTime now = t := by
  unfold atTime
  split
  · rfl
  · split
    · exact cancel_of_cancelled h _
    · rfl

@[simp] theorem atTime_atTime (t : Token) (now : Rat) :
    (t.atTime now).atTime now = t.atTime now := by
  cases halarm : firstAlarm? t.alarms with
  | none => simp [atTime, halarm]
  | some a =>
    by_cases hdue : a.due ≤ now
    · have hat : t.atTime now = t.cancel a.reason := by simp [atTime, halarm, hdue]
      have hcancelled := reason_cancel a.reason t
      rw [hat]
      exact atTime_of_cancelled hcancelled now
    · have hat : t.atTime now = t := by simp [atTime, halarm, hdue]
      rw [hat, hat]

/-- The first reason stays, whatever cancellations follow. -/
theorem reason_cancelAll (first : String) (later : List String) (t : Token) :
    (later.foldl (fun t reason => t.cancel reason) (t.cancel first)).reason =
      some (t.reason.getD first) := by
  induction later with
  | nil => exact reason_cancel first t
  | cons second later ih => rw [List.foldl_cons, cancel_cancel, ih]

end Token

namespace World

variable {w : World} {reason : String}

theorem token_interrupt_of_cancelled (h : w.token.reason = some reason) (i : Interrupt) :
    (w.interrupt i).token = w.token := by
  obtain ⟨signal, cancel⟩ := i
  have hcancel : ∀ second, w.token.cancel second = w.token := Token.cancel_of_cancelled h
  cases signal <;> cases cancel <;> simp [interrupt, hcancel]

theorem token_receive_of_cancelled (h : w.token.reason = some reason) (q : Request) :
    (w.receive q).token = w.token := by
  cases hremote : q.remote <;> simp only [receive, dropReply, hremote] <;>
    exact token_interrupt_of_cancelled (by exact h) _

theorem token_lint_of_cancelled (h : w.token.reason = some reason) (l : Linter)
    (arguments : List String) : (w.lint l arguments).token = w.token := by
  have hlaunch : (w.launch l arguments).token = w.token :=
    token_interrupt_of_cancelled (by exact h) _
  unfold lint
  split <;> exact hlaunch

/-- A deed leaves a cancelled token as it is. -/
theorem token_done_of_cancelled (h : w.token.reason = some reason) (d : Deed) :
    (d.done w).token = w.token := by
  have hpass : ∀ (q : Request) (seconds : Rat), ((w.receive q).pass seconds).token = w.token := by
    intro q seconds
    have hreceive := token_receive_of_cancelled h q
    have hcancelled : (w.receive q).token.reason = some reason := by rw [hreceive, h]
    exact (Token.atTime_of_cancelled hcancelled _).trans hreceive
  cases d with
  | perform q => exact hpass q _
  | ask timeout q => exact hpass q _
  | lint l arguments => exact token_lint_of_cancelled h l arguments
  | _ => rfl

/-- A token that has been cancelled stays so, with its reason. -/
theorem token_after_of_cancelled (h : w.token.reason = some reason) (ds : List Deed) :
    (w.after ds).token = w.token := by
  induction ds generalizing w with
  | nil => rfl
  | cons d ds ih =>
    have hdone := token_done_of_cancelled h d
    rw [after_cons, ih (by rw [hdone, h]), hdone]

/-- Nothing more happens at a time that has come. -/
theorem pass_pass_zero (seconds : Rat) (w : World) : (w.pass seconds).pass 0 = w.pass seconds := by
  have hnow : w.now + seconds + 0 = w.now + seconds := Rat.add_zero _
  simp only [pass, hnow, Token.atTime_atTime]

end World

/-! ## Actions and their deeds -/

namespace Run

variable {α β : Type}

/-- Does an action, in every world, leave what some deeds leave, and end as a relation allows? -/
def Does (x : Run α) (R : World → List Deed → Except Failure α → Prop) : Prop :=
  ∀ w, ∃ ds, (x.outcome w).2 = w.after ds ∧ R w ds (x.outcome w).1

section Rules

variable {P R : World → List Deed → Except Failure α → Prop} {x : Run α}

theorem Does.imp (hx : x.Does P) (h : ∀ w ds res, P w ds res → R w ds res) : x.Does R := by
  intro w
  obtain ⟨ds, hafter, hp⟩ := hx w
  exact ⟨ds, hafter, h w ds _ hp⟩

/-- What is known of the traffic is known of the deeds too. -/
theorem Does.and_obeys {S : Traffic → Except Failure α → Traffic → Prop} (hx : x.Does P)
    (hs : x.Obeys S) :
    x.Does fun w ds res => P w ds res ∧ S w.traffic res (w.after ds).traffic := by
  intro w
  obtain ⟨ds, hafter, hp⟩ := hx w
  have htraffic := hs w
  rw [hafter] at htraffic
  exact ⟨ds, hafter, hp, htraffic⟩

theorem does_pure (a : α) : (pure a : Run α).Does fun _ ds res => ds = [] ∧ res = .ok a :=
  fun _ => ⟨[], rfl, rfl, rfl⟩

theorem does_throw (e : Failure) :
    (throw e : Run α).Does fun _ ds res => ds = [] ∧ res = .error e :=
  fun _ => ⟨[], rfl, rfl, rfl⟩

theorem does_ofExcept {ε : Type} (wrap : ε → Failure) (r : Except ε α) :
    (ofExcept wrap r).Does fun _ ds res => ds = [] ∧ res = r.mapError wrap := by
  intro w
  rw [outcome_ofExcept]
  exact ⟨[], rfl, rfl, rfl⟩

theorem does_get : (get : Run World).Does fun w ds res => ds = [] ∧ res = .ok w :=
  fun _ => ⟨[], rfl, rfl, rfl⟩

theorem does_note (c : Context) (l : Level) (m : String) :
    (note c l m).Does fun _ ds res => (∃ entries, ds = [.write entries]) ∧ res = .ok () :=
  fun _ => ⟨[.write [{ level := l, message := m, context := c }]], rfl, ⟨_, rfl⟩, rfl⟩

theorem does_ofNoting {ε : Type} (wrap : ε → Failure) (r : Noting ε α) :
    (ofNoting wrap r).Does fun _ ds res =>
      (∃ entries, ds = [.write entries]) ∧ res = r.outcome.1.mapError wrap := by
  intro w
  rw [outcome_ofNoting]
  exact ⟨[.write r.outcome.2], rfl, ⟨_, rfl⟩, rfl⟩

/-- The deeds of an action come before those of what follows its success. -/
theorem Does.bind {Q : α → World → List Deed → Except Failure β → Prop} {f : α → Run β}
    (hx : x.Does P) (hf : ∀ a, (f a).Does (Q a)) :
    (x >>= f).Does fun w ds res =>
      (∃ e, P w ds (.error e) ∧ res = .error e) ∨
        ∃ a before after, ds = before ++ after ∧ P w before (.ok a) ∧
          Q a (w.after before) after res := by
  intro w
  obtain ⟨ds, hafter, hp⟩ := hx w
  rcases h : x.outcome w with ⟨e | a, w₁⟩
  · rw [h] at hafter hp
    rw [outcome_bind_error h]
    exact ⟨ds, hafter, .inl ⟨e, hp, rfl⟩⟩
  · rw [h] at hafter hp
    obtain rfl : w₁ = w.after ds := hafter
    obtain ⟨es, hthen, hq⟩ := hf a (w.after ds)
    rw [outcome_bind_ok h]
    exact ⟨ds ++ es, by rw [hthen, World.after_append], .inr ⟨a, ds, es, rfl, hp, hq⟩⟩

/-- What the deeds of an action have, and do not lose by those of what follows, the whole has. -/
theorem does_bind_of_append {S T : World → List Deed → Prop} {f : α → Run β}
    (hx : x.Does fun w ds _ => S w ds) (hf : ∀ a, (f a).Does fun w ds _ => T w ds)
    (happend : ∀ w ds es, S w ds → T (w.after ds) es → S w (ds ++ es)) :
    (x >>= f).Does fun w ds _ => S w ds := by
  refine (hx.bind hf).imp ?_
  rintro w ds res (⟨e, h, -⟩ | ⟨a, before, after, rfl, hbefore, hafter⟩)
  · exact h
  · exact happend w before after hbefore hafter

/-- An entry stands before the deeds of what is done after it. -/
theorem Does.noted (c : Context) (l : Level) (m : String) (hx : x.Does P) :
    (note c l m >>= fun _ => x).Does fun w ds res =>
      ∃ entries rest, ds = .write entries :: rest ∧ P (w.after [.write entries]) rest res := by
  refine ((does_note c l m).bind fun _ => hx).imp ?_
  rintro w ds res (⟨e, ⟨-, he⟩, -⟩ | ⟨_, before, after, rfl, ⟨⟨entries, rfl⟩, -⟩, hp⟩)
  · cases he
  · exact ⟨entries, after, rfl, hp⟩

/-- The deeds of an action come before those of the handler of its failure. -/
theorem Does.tryCatch {H : Failure → World → List Deed → Except Failure α → Prop}
    {handler : Failure → Run α} (hx : x.Does P) (hh : ∀ e, (handler e).Does (H e)) :
    (tryCatch x handler).Does fun w ds res =>
      (∃ a, P w ds (.ok a) ∧ res = .ok a) ∨
        ∃ e before after, ds = before ++ after ∧ P w before (.error e) ∧
          H e (w.after before) after res := by
  intro w
  obtain ⟨ds, hafter, hp⟩ := hx w
  rw [outcome_tryCatch]
  rcases h : x.outcome w with ⟨e | a, w₁⟩
  · rw [h] at hafter hp
    obtain rfl : w₁ = w.after ds := hafter
    obtain ⟨es, hthen, hhandled⟩ := hh e (w.after ds)
    exact ⟨ds ++ es, by rw [hthen, World.after_append], .inr ⟨e, ds, es, rfl, hp, hhandled⟩⟩
  · rw [h] at hafter hp
    exact ⟨ds, hafter, .inl ⟨a, hp, rfl⟩⟩

/-- What the deeds of an action have, and do not lose by those of its handler, the whole has. -/
theorem does_tryCatch_of_append {S T : World → List Deed → Prop} {handler : Failure → Run α}
    (hx : x.Does fun w ds _ => S w ds) (hh : ∀ e, (handler e).Does fun w ds _ => T w ds)
    (happend : ∀ w ds es, S w ds → T (w.after ds) es → S w (ds ++ es)) :
    (tryCatch x handler).Does fun w ds _ => S w ds := by
  refine (hx.tryCatch hh).imp ?_
  rintro w ds res (⟨a, h, -⟩ | ⟨e, before, after, rfl, hbefore, hafter⟩)
  · exact h
  · exact happend w before after hbefore hafter

/-- Entries stand before and after the deeds of an action that is timed. -/
theorem Does.timed (c : Context) (operation : String) (hx : x.Does P) :
    (timed c operation x).Does fun w ds res =>
      ∃ started deeds ended, ds = .write started :: (deeds ++ [.write ended]) ∧
        P (w.after [.write started]) deeds res := by
  intro w
  let started : Entry := { level := .debug, message := s!"Starting {operation}", context := c }
  let completed : Entry :=
    { level := .debug, message := s!"Completed {operation} in {ownTime}", context := c }
  let failed (e : Failure) : Entry := {
    level := .error
    message := s!"Failed {operation} after {ownTime}: {e.message}"
    context := c }
  have hstarted : (note c .debug s!"Starting {operation}").outcome w =
      (.ok (), w.after [.write [started]]) := rfl
  obtain ⟨ds, hafter, hp⟩ := hx (w.after [.write [started]])
  rw [Run.timed, outcome_bind_ok hstarted, outcome_bind, outcome_tryCatch]
  rcases h : x.outcome (w.after [.write [started]]) with ⟨e | a, w₁⟩
  · rw [h] at hafter hp
    obtain rfl : w₁ = (w.after [.write [started]]).after ds := hafter
    refine ⟨.write [started] :: (ds ++ [.write [failed e]]), ?_, _, ds, _, rfl, hp⟩
    exact ((w.after [.write [started]]).after_append ds [.write [failed e]]).symm
  · rw [h] at hafter hp
    obtain rfl : w₁ = (w.after [.write [started]]).after ds := hafter
    refine ⟨.write [started] :: (ds ++ [.write [completed]]), ?_, _, ds, _, rfl, hp⟩
    exact ((w.after [.write [started]]).after_append ds [.write [completed]]).symm

end Rules

/-- Where the token is looked at. -/
theorem does_checkCancelled :
    checkCancelled.Does fun w ds res => ds = [.poll] ∧
      res = if w.token.isCancelled then .error (.cancelled w.token.reasonText) else .ok () := by
  intro w
  cases h : w.token.isCancelled with
  | false => exact ⟨[.poll], by simp [checkCancelled, outcome_bind, h, Deed.done], rfl, by
      simp [checkCancelled, outcome_bind, h]⟩
  | true => exact ⟨[.poll], by simp [checkCancelled, outcome_bind, h, Deed.done], rfl, by
      simp [checkCancelled, outcome_bind, h]⟩

end Run

/-! ## Calls and their deeds -/

namespace Call

variable {α : Type}

/-- A call that is waited for sends its request, if that can be put together. -/
theorem does_perform (call : Call α) :
    call.perform.Does fun _ ds _ =>
      ds = [] ∨ ∃ q, call.request = .ok q ∧ ds = [.perform q] := by
  intro w
  cases hrequest : call.request with
  | error e =>
    rw [outcome_perform_error hrequest]
    exact ⟨[], rfl, .inl rfl⟩
  | ok q =>
    rw [outcome_perform_ok hrequest]
    exact ⟨[.perform q], rfl, .inr ⟨q, rfl, rfl⟩⟩

/-- What a guarded call does under a deadline: it looks at the token, and then asks unless that is
cancelled or there is nothing to ask.  A cancellation that ends its wait is its result. -/
inductive Heeding (call : Call α) (timeout : Option Seconds) (w : World) :
    List Deed → Except Failure α → Prop
  | stopped (h : w.token.isCancelled = true) :
      Heeding call timeout w [.poll] (.error (.cancelled w.token.reasonText))
  | unasked (h : w.token.isCancelled = false) (e : Failure) :
      Heeding call timeout w [.poll] (.error e)
  | asked (h : w.token.isCancelled = false) (q : Request) (hrequest : call.request = .ok q)
      (res : Except Failure α) (hres : (w.race timeout q).1 = .cancellation →
        res = .error (.cancelled ((Deed.ask timeout q).done w).token.reasonText)) :
      Heeding call timeout w [.poll, .ask timeout q] res

theorem outcome_superviseGuarded (timeout : Option Seconds) (call : Pending α)
    (hlingers : call.lingering = 0) (w : World) :
    (call.superviseGuarded timeout none).outcome w =
      let race := Race.finish call.delay (timeout.bind Seconds.toRat?)
        ((w.token.cancelTime? w.now).map (· - w.now))
      (.ok (match race.1 with
        | .call => call.ending
        | .cancellation => Pending.stopped (.cancelled (w.pass race.2).token.reasonText)
        | .deadline => Pending.stopped (.deadline (timeout.map Seconds.text))),
        w.pass race.2) := by
  simp only [Pending.superviseGuarded, Pending.comesBefore, Run.outcome_bind, Run.outcome_get,
    Option.bind_none, Option.map_none, Option.getD_none, Run.outcome_pass, hlingers]
  rcases Race.finish call.delay (timeout.bind Seconds.toRat?)
    ((w.token.cancelTime? w.now).map (· - w.now)) with ⟨finish, elapsed⟩
  cases finish with
  | call => rfl
  | deadline =>
    simp only [Run.outcome_bind, Run.outcome_pass, World.pass_pass_zero, Run.outcome_pure]
  | cancellation =>
    simp only [Run.outcome_bind, Run.outcome_get, Run.outcome_pass, World.pass_pass_zero,
      Run.outcome_pure]

/-- The result of a guarded call whose request is sent. -/
def awaited (call : Call α) (timeout : Option Seconds) (q : Request) (w : World) :
    Except Failure α :=
  match (w.race timeout q).1 with
  | .call => call.resultOf q (w.replyFor q)
  | .cancellation => .error (.cancelled ((Deed.ask timeout q).done w).token.reasonText)
  | .deadline => .error (.deadline (timeout.map Seconds.text))

/-- Whether a guarded call sends its request depends on the token alone. -/
theorem within_cases (call : Call α) (timeout : Option Seconds) (t : Token) :
    (t.isCancelled = true ∧ ∀ w, w.token = t →
        (Run.within true timeout call.start).outcome w = (.error (.cancelled t.reasonText), w)) ∨
      (t.isCancelled = false ∧ ∃ e, ∀ w, w.token = t →
        (Run.within true timeout call.start).outcome w = (.error e, w)) ∨
      (t.isCancelled = false ∧ ∃ q, call.request = .ok q ∧ ∀ w, w.token = t →
        (Run.within true timeout call.start).outcome w =
          (call.awaited timeout q w, (Deed.ask timeout q).done w)) := by
  cases hcancelled : t.isCancelled with
  | true =>
    refine .inl ⟨rfl, fun w hw => ?_⟩
    have hs := outcome_supervise_guarded timeout call.start w
    rw [hw, if_pos hcancelled] at hs
    exact outcome_within_ok hs
  | false =>
    have hs : ∀ w : World, w.token = t → (Run.supervise true timeout none call.start).outcome w =
        if Run.isUncountable timeout then (.ok (Run.refused .uncountable), w)
        else (call.start >>= Pending.superviseGuarded timeout none).outcome w := by
      intro w hw
      rw [outcome_supervise_guarded, hw, if_neg (by simp [hcancelled])]
    by_cases hun : Run.isUncountable timeout = true
    · refine .inr (.inl ⟨rfl, .uncountable, fun w hw => ?_⟩)
      have hrefused := hs w hw
      rw [if_pos hun] at hrefused
      exact outcome_within_ok hrefused
    simp only [if_neg hun] at hs
    cases hrequest : call.request with
    | error e =>
      refine .inr (.inl ⟨rfl, e, fun w hw => ?_⟩)
      have hunformed := hs w hw
      rw [Run.outcome_bind_error (outcome_start_error hrequest w)] at hunformed
      exact outcome_within_error hunformed
    | ok q =>
      refine .inr (.inr ⟨rfl, q, rfl, fun w hw => ?_⟩)
      have hasked := hs w hw
      rw [Run.outcome_bind_ok (outcome_start_ok hrequest w),
        outcome_superviseGuarded timeout _ rfl] at hasked
      rw [outcome_within_ok hasked]
      refine Prod.ext ?_ rfl
      simp only [awaited, World.race]
      cases (Race.finish (w.replyFor q).delay (timeout.bind Seconds.toRat?)
        (((w.receive q).token.cancelTime? (w.receive q).now).map (· - (w.receive q).now))).1 <;> rfl

theorem does_within (call : Call α) (timeout : Option Seconds) :
    (Run.within true timeout call.start).Does (call.Heeding timeout) := by
  intro w
  rcases call.within_cases timeout w.token with ⟨hcancelled, h⟩ | ⟨hcancelled, e, h⟩ |
    ⟨hcancelled, q, hrequest, h⟩ <;> rw [h w rfl]
  · exact ⟨[.poll], rfl, .stopped hcancelled⟩
  · exact ⟨[.poll], rfl, .unasked hcancelled e⟩
  · refine ⟨[.poll, .ask timeout q], rfl, .asked hcancelled q hrequest _ fun hrace => ?_⟩
    simp only [awaited, hrace]

end Call

end InlineReview
