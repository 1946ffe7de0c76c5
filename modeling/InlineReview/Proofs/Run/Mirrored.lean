import InlineReview.Proofs.Run.Deeds
import InlineReview.Proofs.Run.Exchanges
import Mathlib.Data.List.Forall2

/-!
# Comparing two runs

Two worlds are `Alike` if they differ at most in the time, the journal and the replies of the code
host.  An action `Mirrors` for a kind of requests if it does the same in alike worlds, however the
replies to requests of that kind differ: it sends the same requests, ends with the same result, and
leaves the worlds alike.  The replies to all other requests are the same, and no reply that may
differ interrupts the run.  Nothing is cancelled at a set time, since the replies may take any time.

* `World.Alike.receive`, `World.Alike.pass` — a request and a wait leave worlds alike.
* `Run.Mirrors.bind`, `Run.Mirrors.tryCatch`, `Run.Mirrors.reading` — actions put together.
* `Call.mirrors_perform`, `Call.mirrors_within` — calls whose replies are the same.
-/

namespace InlineReview

/-! ## Alike worlds -/

namespace Token

variable {t : Token}

theorem atTime_of_untimed (h : t.alarms = []) (now : Rat) : t.atTime now = t := by
  rw [atTime, h]
  rfl

@[simp] theorem alarms_cancel (reason : String) (t : Token) :
    (t.cancel reason).alarms = t.alarms := by
  cases h : t.reason <;> simp [cancel, h]

/-- A token without alarms is cancelled now or never. -/
theorem cancelTime?_of_untimed (h : t.alarms = []) (now : Rat) :
    t.cancelTime? now = if t.isCancelled then some now else none := by
  rw [cancelTime?, h]
  rfl

end Token

namespace World

/-- Do two worlds differ at most in the time, the journal and the replies of the code host, and is
no cancellation set to a time? -/
structure Alike (w v : World) : Prop where
  untimed : w.token.alarms = []
  same : ∃ now hostReplies journal, v = { w with now, hostReplies, journal }

@[simp] theorem alarms_interrupt (i : Interrupt) (w : World) :
    (w.interrupt i).token.alarms = w.token.alarms := by
  obtain ⟨signal, cancel⟩ := i
  cases signal <;> cases cancel <;> simp only [interrupt] <;> repeat' split
  all_goals simp

namespace Alike

variable {w v : World}

theorem token_eq (h : w.Alike v) : v.token = w.token := by
  obtain ⟨-, _, _, _, rfl⟩ := h
  rfl

theorem files_eq (h : w.Alike v) : v.files = w.files := by
  obtain ⟨-, _, _, _, rfl⟩ := h
  rfl

theorem sent_eq (h : w.Alike v) : v.sent = w.sent := by
  obtain ⟨-, _, _, _, rfl⟩ := h
  rfl

theorem commands_eq (h : w.Alike v) : v.commands = w.commands := by
  obtain ⟨-, _, _, _, rfl⟩ := h
  rfl

/-- What is written does not matter. -/
theorem write (h : w.Alike v) (entries others : List Entry) :
    World.Alike { w with journal := w.journal ++ entries }
      { v with journal := v.journal ++ others } := by
  obtain ⟨huntimed, _, _, _, rfl⟩ := h
  exact ⟨huntimed, _, _, _, rfl⟩

theorem interrupt (h : w.Alike v) (i : Interrupt) : (w.interrupt i).Alike (v.interrupt i) := by
  obtain ⟨huntimed, _, _, _, rfl⟩ := h
  exact ⟨(alarms_interrupt i w).trans huntimed, _, _, _, rfl⟩

theorem receive (h : w.Alike v) {q : Request}
    (hinterrupt : (v.replyFor q).interrupt = (w.replyFor q).interrupt) :
    (w.receive q).Alike (v.receive q) := by
  rw [World.receive, World.receive, hinterrupt]
  refine Alike.interrupt ?_ _
  obtain ⟨huntimed, _, _, _, rfl⟩ := h
  cases hremote : q.remote with
  | codeHost => exact ⟨huntimed, _, _, _, rfl⟩
  | model => exact ⟨huntimed, _, _, _, rfl⟩

/-- Alike worlds stay so, however long either waits. -/
theorem pass (h : w.Alike v) (seconds others : Rat) : (w.pass seconds).Alike (v.pass others) := by
  have hw : w.pass seconds = { w with now := w.now + seconds } := by
    rw [World.pass, Token.atTime_of_untimed h.untimed]
  have hv : v.pass others = { v with now := v.now + others } := by
    rw [World.pass, h.token_eq, Token.atTime_of_untimed h.untimed, ← h.token_eq]
  rw [hw, hv]
  obtain ⟨huntimed, _, _, _, rfl⟩ := h
  exact ⟨huntimed, _, _, _, rfl⟩

end Alike

end World

/-! ## Replies that match -/

/-- Do the replies for one request match?  They are the same, or neither matters. -/
def Exchange.Matches (free : Request → Prop) (e e' : Exchange) : Prop :=
  e'.reply = e.reply ∨ free e.request ∧ e.reply.interrupt = {} ∧ e'.reply.interrupt = {}

/-- Do the replies match that come for some requests? -/
def Traffic.Matches (free : Request → Prop) (qs : List Request) (t u : Traffic) : Prop :=
  List.Forall₂ (Exchange.Matches free) (t.exchanges qs) (u.exchanges qs)

namespace Traffic

variable {free : Request → Prop} {q : Request} {qs ps : List Request} {t t₁ u u₁ : Traffic}

theorem matches_cons :
    t.Matches free (q :: qs) u ↔
      (u.replyFor q = t.replyFor q ∨
        free q ∧ (t.replyFor q).interrupt = {} ∧ (u.replyFor q).interrupt = {}) ∧
      (t.send q).Matches free qs (u.send q) := by
  simp [Matches, Exchange.Matches]

theorem matches_singleton :
    t.Matches free [q] u ↔ u.replyFor q = t.replyFor q ∨
      free q ∧ (t.replyFor q).interrupt = {} ∧ (u.replyFor q).interrupt = {} := by
  simp [Matches, Exchange.Matches]

theorem matches_append :
    t.Matches free (qs ++ ps) u ↔
      t.Matches free qs u ∧ (t.sendAll qs).Matches free ps (u.sendAll qs) := by
  induction qs generalizing t u with
  | nil => simp [Matches]
  | cons q qs ih =>
    rw [List.cons_append, matches_cons, matches_cons, ih, sendAll_cons, sendAll_cons, and_assoc]

/-- Which replies come after some requests depends on these alone. -/
theorem Matches.after (h : (t.sendAll qs).Matches free ps (u.sendAll qs)) (ht : t.Sends qs t₁)
    (hu : u.Sends qs u₁) : t₁.Matches free ps u₁ := by
  rw [Matches, exchanges_congr ht.replies_eq, exchanges_congr hu.replies_eq]
  exact h

/-- The replies of the code host, with another one in place of those to requests of a kind. -/
def hostRepliesBut (free : Request → Prop) [DecidablePred free] (other : Reply) :
    List Exchange → List Reply
  | [] => []
  | e :: es =>
    match e.request.remote with
    | .codeHost => (if free e.request then other else e.reply) :: hostRepliesBut free other es
    | .model => hostRepliesBut free other es

/-- Any other reply that does not interrupt may stand in place of replies that do not. -/
theorem matches_hostRepliesBut [DecidablePred free] {other : Reply} (hother : other.interrupt = {})
    (hcalm : ∀ e ∈ t.exchanges qs, e.reply.interrupt = {}) :
    t.Matches free qs { t with hostReplies := hostRepliesBut free other (t.exchanges qs) } := by
  induction qs generalizing t with
  | nil => exact .nil
  | cons q qs ih =>
    rw [exchanges_cons, List.forall_mem_cons] at hcalm
    have hrest := ih hcalm.2
    rw [matches_cons, exchanges_cons, hostRepliesBut]
    cases hremote : q.remote with
    | codeHost =>
      simp only [replyFor, replies, send, hremote, List.head?_cons, Option.getD_some,
        List.tail_cons] at hrest hcalm ⊢
      refine ⟨?_, hrest⟩
      split
      · exact .inr ⟨‹_›, hcalm.1, hother⟩
      · exact .inl rfl
    | model =>
      simp only [replyFor, replies, send, hremote] at hrest ⊢
      exact ⟨.inl trivial, hrest⟩

/-- What every reply is that can come is every reply that comes. -/
theorem forall_mem_exchanges {P : Reply → Prop} (hlast : ∀ method, P (Reply.last method))
    (hhost : ∀ reply ∈ t.hostReplies, P reply) (hmodel : ∀ reply ∈ t.modelReplies, P reply) :
    ∀ e ∈ t.exchanges qs, P e.reply := by
  induction qs generalizing t with
  | nil => simp
  | cons q qs ih =>
    rw [exchanges_cons, List.forall_mem_cons]
    have hreply : P (t.replyFor q) := by
      have hreplies : ∀ reply ∈ t.replies q.remote, P reply := by
        cases q.remote
        · exact hhost
        · exact hmodel
      rw [replyFor]
      cases h : t.replies q.remote with
      | nil => exact hlast q.method
      | cons reply rest => exact hreplies reply (by simp [h])
    refine ⟨hreply, ih (fun reply h => hhost reply ?_) fun reply h => hmodel reply ?_⟩
    · cases hremote : q.remote <;> simp only [send, hremote] at h
      · exact List.mem_of_mem_tail h
      · exact h
    · cases hremote : q.remote <;> simp only [send, hremote] at h
      · exact h
      · exact List.mem_of_mem_tail h

end Traffic

/-! ## Actions that are mirrored -/

namespace Run

variable {α β : Type} {free : Request → Prop}

/-- Does an action do in a second world what it does in a first one, where it sends these
requests? -/
structure Repeats (x : Run α) (qs : List Request) (w v : World) : Prop where
  result_eq : (x.outcome v).1 = (x.outcome w).1
  alike : (x.outcome w).2.Alike (x.outcome v).2
  sends : v.traffic.Sends qs (x.outcome v).2.traffic

/-- Does an action do the same in alike worlds, if the replies match to what it sends? -/
def Mirrors (free : Request → Prop) (x : Run α) : Prop :=
  ∀ w, ∃ qs, w.traffic.Sends qs (x.outcome w).2.traffic ∧
    ∀ v, w.Alike v → w.traffic.Matches free qs v.traffic → x.Repeats qs w v

section Rules

variable {x : Run α} {qs : List Request} {w v w₁ v₁ : World} {res : Except Failure α}

theorem Repeats.of_outcome (hw : x.outcome w = (res, w₁)) (hv : x.outcome v = (res, v₁))
    (halike : w₁.Alike v₁) (hsends : v.traffic.Sends qs v₁.traffic) : x.Repeats qs w v where
  result_eq := by rw [hw, hv]
  alike := by rwa [hw, hv]
  sends := by rwa [hv]

theorem Repeats.outcome (h : x.Repeats qs w v) (hw : x.outcome w = (res, w₁)) :
    ∃ v₁, x.outcome v = (res, v₁) ∧ w₁.Alike v₁ ∧ v.traffic.Sends qs v₁.traffic := by
  obtain ⟨hresult, halike, hsends⟩ := h
  rw [hw] at hresult halike
  exact ⟨(x.outcome v).2, Prod.ext hresult rfl, halike, hsends⟩

/-- An action that sends nothing and reads nothing in which alike worlds differ. -/
theorem mirrors_of_silent (hsends : ∀ w : World, w.traffic.Sends [] (x.outcome w).2.traffic)
    (hsame : ∀ w v : World, w.Alike v →
      (x.outcome v).1 = (x.outcome w).1 ∧ (x.outcome w).2.Alike (x.outcome v).2) :
    x.Mirrors free :=
  fun w => ⟨[], hsends w, fun v halike _ =>
    ⟨(hsame w v halike).1, (hsame w v halike).2, hsends v⟩⟩

/-- An action that does nothing, and fails or not as the token tells. -/
theorem repeats_of_idle (h : ∀ v : World, v.token = w.token → x.outcome v = (res, v)) :
    ∃ qs, w.traffic.Sends qs (x.outcome w).2.traffic ∧
      ∀ v, w.Alike v → w.traffic.Matches free qs v.traffic → x.Repeats qs w v := by
  refine ⟨[], ?_, fun v halike _ => ?_⟩
  · rw [h w rfl]
    exact .refl _
  · exact .of_outcome (h w rfl) (h v halike.token_eq) halike (.refl _)

theorem mirrors_pure (a : α) : (pure a : Run α).Mirrors free :=
  mirrors_of_silent (fun _ => .refl _) fun _ _ halike => ⟨rfl, halike⟩

theorem mirrors_throw (e : Failure) : (throw e : Run α).Mirrors free :=
  mirrors_of_silent (fun _ => .refl _) fun _ _ halike => ⟨rfl, halike⟩

theorem mirrors_ofExcept {ε : Type} (wrap : ε → Failure) (r : Except ε α) :
    (ofExcept wrap r).Mirrors free := by
  cases r with
  | ok a => exact mirrors_pure a
  | error e => exact mirrors_throw (wrap e)

theorem mirrors_note (c : Context) (l : Level) (m : String) : (note c l m).Mirrors free :=
  mirrors_of_silent (fun _ => .refl _) fun _ _ halike => ⟨rfl, halike.write _ _⟩

theorem mirrors_noteFailure (c : Context) (m : String) (error : Option String) :
    (noteFailure c m error).Mirrors free := by
  cases error <;> exact mirrors_note c .error _

theorem mirrors_ofNoting {ε : Type} (wrap : ε → Failure) (r : Noting ε α) :
    (ofNoting wrap r).Mirrors free := by
  refine mirrors_of_silent (fun w => ?_) fun w v halike => ?_
  · rw [outcome_ofNoting]
    exact .refl _
  · rw [outcome_ofNoting, outcome_ofNoting]
    exact ⟨rfl, halike.write _ _⟩

/-- An action that goes on as another one does, once some requests have been sent. -/
theorem Mirrors.resume {y : Run β} {z : Run β} (hy : y.Mirrors free)
    (hsends : w.traffic.Sends qs w₁.traffic) (hw : z.outcome w = y.outcome w₁)
    (hsame : ∀ v, w.Alike v → w.traffic.Matches free qs v.traffic → ∃ v₁,
      z.outcome v = y.outcome v₁ ∧ w₁.Alike v₁ ∧ v.traffic.Sends qs v₁.traffic) :
    ∃ ps, w.traffic.Sends ps (z.outcome w).2.traffic ∧
      ∀ v, w.Alike v → w.traffic.Matches free ps v.traffic → z.Repeats ps w v := by
  obtain ⟨ps, hthen, hnext⟩ := hy w₁
  refine ⟨qs ++ ps, by rw [hw]; exact hsends.trans hthen, fun v halike hmatches => ?_⟩
  obtain ⟨hfirst, hrest⟩ := Traffic.matches_append.1 hmatches
  obtain ⟨v₁, hv, halike₁, hsends'⟩ := hsame v halike hfirst
  obtain ⟨hresult, halike₂, hthen'⟩ := hnext v₁ halike₁ (hrest.after hsends hsends')
  refine .of_outcome hw ?_ halike₂ (hsends'.trans hthen')
  rw [hv]
  exact Prod.ext hresult rfl

theorem Mirrors.bind {f : α → Run β} (hx : x.Mirrors free) (hf : ∀ a, (f a).Mirrors free) :
    (x >>= f).Mirrors free := by
  intro w
  obtain ⟨qs, hsends, hsame⟩ := hx w
  rcases h : x.outcome w with ⟨e | a, w₁⟩
  · rw [h] at hsends
    refine ⟨qs, by rwa [outcome_bind_error h], fun v halike hmatches => ?_⟩
    obtain ⟨v₁, hv, halike₁, hsends'⟩ := (hsame v halike hmatches).outcome h
    exact .of_outcome (outcome_bind_error h) (outcome_bind_error hv) halike₁ hsends'
  · rw [h] at hsends
    refine (hf a).resume hsends (outcome_bind_ok h) fun v halike hmatches => ?_
    obtain ⟨v₁, hv, halike₁, hsends'⟩ := (hsame v halike hmatches).outcome h
    exact ⟨v₁, outcome_bind_ok hv, halike₁, hsends'⟩

theorem Mirrors.tryCatch {handler : Failure → Run α} (hx : x.Mirrors free)
    (hh : ∀ e, (handler e).Mirrors free) : (tryCatch x handler).Mirrors free := by
  intro w
  obtain ⟨qs, hsends, hsame⟩ := hx w
  rcases h : x.outcome w with ⟨e | a, w₁⟩
  · rw [h] at hsends
    refine (hh e).resume hsends (outcome_tryCatch_error h) fun v halike hmatches => ?_
    obtain ⟨v₁, hv, halike₁, hsends'⟩ := (hsame v halike hmatches).outcome h
    exact ⟨v₁, outcome_tryCatch_error hv, halike₁, hsends'⟩
  · rw [h] at hsends
    refine ⟨qs, by rwa [outcome_tryCatch_ok h], fun v halike hmatches => ?_⟩
    obtain ⟨v₁, hv, halike₁, hsends'⟩ := (hsame v halike hmatches).outcome h
    exact .of_outcome (outcome_tryCatch_ok h) (outcome_tryCatch_ok hv) halike₁ hsends'

theorem Mirrors.map (f : α → β) (hx : x.Mirrors free) : (f <$> x).Mirrors free := by
  rw [map_eq_pure_bind]
  exact hx.bind fun a => mirrors_pure (f a)

theorem Mirrors.timed (c : Context) (operation : String) (hx : x.Mirrors free) :
    (timed c operation x).Mirrors free := by
  refine (mirrors_note _ _ _).bind fun _ => (hx.tryCatch fun e => ?_).bind fun a => ?_
  · exact (mirrors_note _ _ _).bind fun _ => mirrors_throw e
  · exact (mirrors_note _ _ _).bind fun _ => mirrors_pure a

/-- What is read of the world does not matter if some action does what is done after reading either
of two alike worlds. -/
theorem mirrors_get_bind {f : World → Run α} (hf : ∀ w, (f w).Mirrors free)
    (hsame : ∀ w v : World, w.Alike v → ∃ y : Run α, y.Mirrors free ∧
      y.outcome w = (f w).outcome w ∧ y.outcome v = (f v).outcome v) :
    (get >>= f).Mirrors free := by
  intro w
  obtain ⟨qs, hsends, -⟩ := hf w w
  refine ⟨qs, hsends, fun v halike hmatches => ?_⟩
  obtain ⟨y, hy, hw, hv⟩ := hsame w v halike
  obtain ⟨ps, hsends', hrepeats⟩ := hy w
  rw [hw] at hsends'
  obtain rfl : ps = qs := hsends'.unique hsends
  obtain ⟨hresult, halike', hthen⟩ := hrepeats v halike hmatches
  rw [hw, hv] at hresult halike'
  rw [hv] at hthen
  exact ⟨hresult, halike', hthen⟩

/-- What alike worlds have in common may be read. -/
theorem mirrors_reading {f : World → Run α} (hf : ∀ w, (f w).Mirrors free)
    (hsame : ∀ w v : World, w.Alike v → f v = f w) : (get >>= f).Mirrors free :=
  mirrors_get_bind hf fun w v halike => ⟨f w, hf w, rfl, by rw [hsame w v halike]⟩

theorem mirrors_checkCancelled : checkCancelled.Mirrors free := by
  refine mirrors_reading (fun w => ?_) fun w v halike => by rw [halike.token_eq]
  dsimp only
  split
  · exact mirrors_throw _
  · exact mirrors_pure ()

end Rules

end Run

/-! ## Calls -/

namespace World

/-- Without alarms a wait is cut short at once or not at all. -/
theorem race_of_untimed {w : World} (h : w.token.alarms = []) (timeout : Option Seconds)
    (q : Request) :
    w.race timeout q = Race.finish (w.replyFor q).delay (timeout.bind Seconds.toRat?)
      (if (w.receive q).token.isCancelled then some 0 else none) := by
  have huntimed : (w.receive q).token.alarms = [] := by
    rw [receive, alarms_interrupt]
    cases hremote : q.remote <;> simpa only [dropReply] using h
  rw [race, Token.cancelTime?_of_untimed huntimed]
  split
  · rw [Option.map_some, Rat.sub_self]
  · rfl

namespace Alike

variable {w v : World}

/-- What a wait leaves if the replies interrupt alike. -/
theorem ask (h : w.Alike v) {q : Request} (timeout : Option Seconds)
    (hinterrupt : (v.replyFor q).interrupt = (w.replyFor q).interrupt) :
    ((Deed.ask timeout q).done w).Alike ((Deed.ask timeout q).done v) :=
  (h.receive hinterrupt).pass _ _

theorem race_eq (h : w.Alike v) {q : Request} (timeout : Option Seconds)
    (hreply : v.replyFor q = w.replyFor q) : v.race timeout q = w.race timeout q := by
  have huntimed : v.token.alarms = [] := by rw [h.token_eq, h.untimed]
  have htoken := (h.receive (congrArg Reply.interrupt hreply)).token_eq
  rw [race_of_untimed h.untimed, race_of_untimed huntimed, hreply, htoken]

end Alike

end World

namespace Call

variable {α : Type} {free : Request → Prop} {call : Call α} {w v : World}

theorem awaited_eq (h : w.Alike v) {q : Request} (timeout : Option Seconds)
    (hreply : v.replyFor q = w.replyFor q) :
    call.awaited timeout q v = call.awaited timeout q w := by
  have htoken := (h.ask timeout (congrArg Reply.interrupt hreply)).token_eq
  rw [awaited, awaited, h.race_eq timeout hreply, hreply, htoken]

/-- The reply that matters is the same. -/
theorem replyFor_eq_of_matches {q : Request} (hq : ¬ free q)
    (h : w.traffic.Matches free [q] v.traffic) : v.replyFor q = w.replyFor q := by
  rw [Traffic.matches_singleton, World.replyFor_traffic, World.replyFor_traffic] at h
  exact h.resolve_right fun hfree => hq hfree.1

theorem sends_receive (w : World) (q : Request) (seconds : Rat) :
    w.traffic.Sends [q] ((w.receive q).pass seconds).traffic :=
  .of_sendAll (by rw [World.traffic_pass, World.traffic_receive]; rfl)

/-- A call that is waited for does the same if its reply is the same. -/
theorem mirrors_perform (hfixed : ∀ q, call.request = .ok q → ¬ free q) :
    call.perform.Mirrors free := by
  intro w
  cases hrequest : call.request with
  | error e => exact Run.repeats_of_idle fun v _ => outcome_perform_error hrequest v
  | ok q =>
    refine ⟨[q], ?_, fun v halike hmatches => ?_⟩
    · rw [outcome_perform_ok hrequest]
      exact sends_receive w q _
    · have hreply := replyFor_eq_of_matches (hfixed q hrequest) hmatches
      have hv := outcome_perform_ok hrequest v
      rw [hreply] at hv
      exact .of_outcome (outcome_perform_ok hrequest w) hv
        ((halike.receive (congrArg Reply.interrupt hreply)).pass _ _) (sends_receive v q _)

/-- So does a guarded call. -/
theorem mirrors_within (timeout : Option Seconds)
    (hfixed : ∀ q, call.request = .ok q → ¬ free q) :
    (Run.within true timeout call.start).Mirrors free := by
  intro w
  rcases call.within_cases timeout w.token with ⟨-, h⟩ | ⟨-, e, h⟩ | ⟨-, q, hrequest, h⟩
  · exact Run.repeats_of_idle h
  · exact Run.repeats_of_idle h
  · refine ⟨[q], ?_, fun v halike hmatches => ?_⟩
    · rw [h w rfl]
      exact sends_receive w q _
    · have hreply := replyFor_eq_of_matches (hfixed q hrequest) hmatches
      have hv := h v halike.token_eq
      rw [awaited_eq halike timeout hreply] at hv
      exact .of_outcome (h w rfl) hv (halike.ask timeout (congrArg Reply.interrupt hreply))
        (sends_receive v q _)

end Call

end InlineReview
