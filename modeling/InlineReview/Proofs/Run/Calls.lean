import InlineReview.Proofs.Run.Traffic
import InlineReview.Remote.Client

/-!
# Calls and their traffic

A call that is waited for sends its request, if that can be put together, and draws its conclusion
from the reply.  Under supervision it may also be refused before anything is sent, come too late,
or be cancelled: `Call.Course` lists what can happen, and `Call.course_within` says that nothing
else does.

* `Race.finish_cases` — when the call, its deadline and a cancellation win.
* `Call.course_within` — the course of a call under a deadline.
* `Call.outcome_within_heard` — the result of a call whose reply is heard.
* `Call.obeys_perform`, `Call.obeys_within` — what a call does to the traffic.
-/

namespace InlineReview

/-! ## Replies in time -/

/-- Does a reply come before a deadline?  One that does not take any time always does. -/
def Reply.isInTime (timeout : Option Seconds) (r : Reply) : Bool :=
  r.delay = 0 || Race.isBefore r.delay (timeout.bind Seconds.toRat?)

namespace Race

/-- A call finishes if it is in time and nothing is cancelled before. -/
theorem finish_call {delay : Rat} {deadline cancellation : Option Rat}
    (hin : (delay = 0 || isBefore delay deadline) = true)
    (hup : isUpTo delay cancellation = true) :
    finish delay deadline cancellation = (.call, delay) := by
  unfold finish
  rw [hin, hup]
  rfl

/-- A call finishes only if it is in time, its deadline passes only if it is not, and nothing is
cancelled without a cancellation. -/
theorem finish_cases (delay : Rat) (deadline cancellation : Option Rat) :
    ((finish delay deadline cancellation).1 = .call ∧
        (delay = 0 || isBefore delay deadline) = true) ∨
      ((finish delay deadline cancellation).1 = .deadline ∧
        (delay = 0 || isBefore delay deadline) = false) ∨
      ((finish delay deadline cancellation).1 = .cancellation ∧ cancellation.isSome = true) := by
  unfold finish
  by_cases hin : (delay = 0 || isBefore delay deadline) = true
  · by_cases hup : isUpTo delay cancellation = true
    · exact .inl (by simp [hin, hup])
    · obtain ⟨c, rfl⟩ : ∃ c, cancellation = some c := by
        cases cancellation with
        | none => exact absurd rfl hup
        | some c => exact ⟨c, rfl⟩
      refine .inr (.inr ⟨?_, rfl⟩)
      rw [if_neg (by simp [hup])]
      cases deadline with
      | none => rfl
      | some d =>
        -- the deadline lies after the delay, and that after the cancellation
        have hle : c ≤ if d < 0 then 0 else d := by
          simp only [isUpTo, isBefore, Bool.or_eq_true, decide_eq_true_eq] at hin hup
          split <;> grind
        simp only [Option.map_some, if_pos hle]
  · rw [if_neg (by simp [hin])]
    have hlate : (delay = 0 || isBefore delay deadline) = false := by simpa using hin
    cases deadline with
    | none => simp [isBefore] at hin
    | some d =>
      cases cancellation with
      | none => exact .inr (.inl ⟨rfl, hlate⟩)
      | some c =>
        by_cases hc : c ≤ if d < 0 then 0 else d
        · exact .inr (.inr ⟨by simp only [Option.map_some, if_pos hc], rfl⟩)
        · exact .inr (.inl ⟨by simp only [Option.map_some, if_neg hc], hlate⟩)

end Race

/-! ## Supervision -/

namespace Pending

variable {α : Type}

/-- How a supervised call ends: in time, too late, or cancelled if `cancels` holds. -/
def EndsIn (call : Pending α) (timeout : Option Seconds) (cancels : Prop)
    (result : Except Failure α) : Prop :=
  let inTime := call.delay = 0 || Race.isBefore call.delay (timeout.bind Seconds.toRat?)
  (inTime = true ∧ result = call.result) ∨
    (inTime = false ∧ ∃ shown, result = .error (.deadline shown)) ∨
    (cancels ∧ ∃ reason, result = .error (.cancelled reason))

theorem superviseGuarded_endsIn (timeout : Option Seconds) (call : Pending α) (w : World) :
    ∃ ending w', (call.superviseGuarded timeout none).outcome w = (.ok ending, w') ∧
      w'.traffic = w.traffic ∧
      call.EndsIn timeout ((w.token.cancelTime? w.now).isSome = true) ending.result := by
  have hcases := Race.finish_cases call.delay (timeout.bind Seconds.toRat?)
    ((w.token.cancelTime? w.now).map (· - w.now))
  simp only [superviseGuarded, comesBefore, Run.outcome_bind, Run.outcome_get, Option.bind_none,
    Option.map_none, Option.getD_none, Run.outcome_pass]
  rcases hcases with ⟨hfinish, hin⟩ | ⟨hfinish, hlate⟩ | ⟨hfinish, hcancel⟩
  · rw [hfinish]
    exact ⟨_, _, rfl, by simp, .inl ⟨hin, rfl⟩⟩
  · rw [hfinish]
    exact ⟨_, _, rfl, by simp, .inr (.inl ⟨hlate, _, rfl⟩)⟩
  · rw [hfinish]
    exact ⟨_, _, rfl, by simp, .inr (.inr ⟨by simpa using hcancel, _, rfl⟩)⟩

theorem superviseUnguarded_endsIn (timeout : Option Seconds) (call : Pending α) (w : World) :
    ∃ ending w', (call.superviseUnguarded timeout none).outcome w = (.ok ending, w') ∧
      w'.traffic = w.traffic ∧ call.EndsIn timeout False ending.result := by
  have hcases := Race.finish_cases call.delay (timeout.bind Seconds.toRat?) none
  simp only [superviseUnguarded, comesBefore, Run.outcome_bind, Option.bind_none, Run.outcome_pass]
  rcases hcases with ⟨hfinish, hin⟩ | ⟨hfinish, hlate⟩ | ⟨_, hcancel⟩
  · rw [hfinish]
    exact ⟨_, _, rfl, by simp, .inl ⟨hin, rfl⟩⟩
  · rw [hfinish]
    exact ⟨_, _, rfl, by simp, .inr (.inl ⟨hlate, _, rfl⟩)⟩
  · exact absurd hcancel (by simp)

end Pending

/-! ## The course of a call -/

namespace Call

variable {α : Type}

/-- May a call start under a deadline?  Not if the deadline has passed or cannot be counted, and
only a call without guard asks whether it has passed. -/
def mayStart (guarded : Bool) (timeout : Option Seconds) : Bool :=
  ! Run.isUncountable timeout && (guarded || ! Run.hasPassed timeout)

theorem mayStart_iff {guarded : Bool} {timeout : Option Seconds} :
    mayStart guarded timeout = true ↔
      Run.isUncountable timeout = false ∧ ¬ (guarded = false ∧ Run.hasPassed timeout = true) := by
  cases guarded <;> simp [mayStart]

/-- What happens to a call under a deadline, and the result and the traffic that it leaves.  It is
cancelled only if `cancels` holds. -/
inductive Course (call : Call α) (guarded : Bool) (timeout : Option Seconds) (cancels : Prop)
    (t : Traffic) (res : Except Failure α) (t' : Traffic) : Prop where
  /-- It is cancelled before it starts. -/
  | unheeded (reason : String) (hcancels : cancels) (hguarded : guarded = true)
      (hres : res = .error (.cancelled reason)) (htraffic : t' = t)
  /-- Its deadline has passed before it starts. -/
  | passed (hguarded : guarded = false) (hpassed : Run.hasPassed timeout = true)
      (hres : res = .error (.deadline none)) (htraffic : t' = t)
  /-- Its deadline cannot be counted. -/
  | uncountable (huncountable : Run.isUncountable timeout = true)
      (hguarded : guarded = true ∨ Run.hasPassed timeout = false)
      (hres : res = .error .uncountable) (htraffic : t' = t)
  /-- Its request cannot be put together. -/
  | unformed (e : Failure) (hstart : mayStart guarded timeout = true)
      (hrequest : call.request = .error e) (hres : res = .error e) (htraffic : t' = t)
  /-- Its reply comes in time. -/
  | heard (q : Request) (hstart : mayStart guarded timeout = true)
      (hrequest : call.request = .ok q) (htime : (t.replyFor q).isInTime timeout = true)
      (hres : res = call.resultOf q (t.replyFor q)) (htraffic : t' = t.send q)
  /-- Its reply comes too late. -/
  | late (q : Request) (shown : Option String) (hstart : mayStart guarded timeout = true)
      (hrequest : call.request = .ok q) (htime : (t.replyFor q).isInTime timeout = false)
      (hres : res = .error (.deadline shown)) (htraffic : t' = t.send q)
  /-- It is cancelled before its reply comes. -/
  | cancelled (q : Request) (reason : String) (hcancels : cancels)
      (hstart : mayStart guarded timeout = true) (hrequest : call.request = .ok q)
      (hres : res = .error (.cancelled reason)) (htraffic : t' = t.send q)

/-! ## Starting and waiting -/

theorem outcome_start_ok {call : Call α} {q : Request} (h : call.request = .ok q) (w : World) :
    call.start.outcome w =
      (.ok { delay := (w.replyFor q).delay, result := call.resultOf q (w.replyFor q) },
        w.receive q) := by
  rw [start, h]
  rfl

theorem outcome_start_error {call : Call α} {e : Failure} (h : call.request = .error e)
    (w : World) : call.start.outcome w = (.error e, w) := by
  rw [start, h]
  rfl

/-- A call that is waited for ends with what its reply gives, once that has come. -/
theorem outcome_perform_ok {call : Call α} {q : Request} (h : call.request = .ok q) (w : World) :
    call.perform.outcome w =
      (call.resultOf q (w.replyFor q), (w.receive q).pass (w.replyFor q).delay) := by
  rw [perform, Run.await, Run.outcome_bind_ok (outcome_start_ok h w),
    Run.outcome_bind_ok (Run.outcome_pass _ _), Run.outcome_ofExcept, Run.mapError_id]

theorem outcome_perform_error {call : Call α} {e : Failure} (h : call.request = .error e)
    (w : World) : call.perform.outcome w = (.error e, w) := by
  rw [perform, Run.await, Run.outcome_bind_error (outcome_start_error h w)]

theorem outcome_within_ok {start : Run (Pending α)} {guarded : Bool} {timeout : Option Seconds}
    {ending : Ending α} {w w' : World}
    (h : (Run.supervise guarded timeout none start).outcome w = (.ok ending, w')) :
    (Run.within guarded timeout start).outcome w = (ending.result, w') := by
  rw [Run.within, Run.outcome_bind_ok h, Run.outcome_ofExcept, Run.mapError_id]

theorem outcome_within_error {start : Run (Pending α)} {guarded : Bool}
    {timeout : Option Seconds} {e : Failure} {w w' : World}
    (h : (Run.supervise guarded timeout none start).outcome w = (.error e, w')) :
    (Run.within guarded timeout start).outcome w = (.error e, w') := by
  rw [Run.within, Run.outcome_bind_error h]

theorem Course.of_endsIn {call : Call α} {guarded : Bool} {timeout : Option Seconds}
    {cancels : Prop} {w : World} {q : Request} {res : Except Failure α}
    (hstart : mayStart guarded timeout = true) (hrequest : call.request = .ok q)
    (h : Pending.EndsIn
      { delay := (w.replyFor q).delay, result := call.resultOf q (w.replyFor q) }
      timeout cancels res) :
    call.Course guarded timeout cancels w.traffic res (w.traffic.send q) := by
  rw [← World.replyFor_traffic] at h
  rcases h with ⟨hin, hres⟩ | ⟨hlate, shown, hres⟩ | ⟨hcancels, reason, hres⟩
  · exact .heard q hstart hrequest hin hres rfl
  · exact .late q shown hstart hrequest hlate hres rfl
  · exact .cancelled q reason hcancels hstart hrequest hres rfl

theorem outcome_supervise_guarded (timeout : Option Seconds) (start : Run (Pending α))
    (w : World) :
    (Run.supervise true timeout none start).outcome w =
      if w.token.isCancelled then (.ok (Run.refused (.cancelled w.token.reasonText)), w)
      else if Run.isUncountable timeout then (.ok (Run.refused .uncountable), w)
      else (start >>= Pending.superviseGuarded timeout none).outcome w := by
  rw [Run.supervise, Run.outcome_bind_ok (Run.outcome_get w), if_pos rfl]
  split
  · rfl
  · split <;> rfl

theorem outcome_supervise_unguarded (timeout : Option Seconds) (start : Run (Pending α))
    (w : World) :
    (Run.supervise false timeout none start).outcome w =
      if Run.hasPassed timeout then (.ok (Run.refused (.deadline none)), w)
      else if Run.isUncountable timeout then (.ok (Run.refused .uncountable), w)
      else (start >>= Pending.superviseUnguarded timeout none).outcome w := by
  rw [Run.supervise, Run.outcome_bind_ok (Run.outcome_get w), if_neg (by simp)]
  split
  · rfl
  · split <;> rfl

/-- The course of a call that may start, under a supervisor of which it is known how calls end. -/
theorem course_of_started {call : Call α} {guarded : Bool} {timeout : Option Seconds} {w : World}
    {cancels : Prop} {supervisor : Pending α → Run (Ending α)} {C : World → Prop}
    (hends : ∀ (p : Pending α) (w : World), ∃ ending w',
      (supervisor p).outcome w = (.ok ending, w') ∧ w'.traffic = w.traffic ∧
        p.EndsIn timeout (C w) ending.result)
    (hstart : mayStart guarded timeout = true)
    (hs : (Run.supervise guarded timeout none call.start).outcome w =
      (call.start >>= supervisor).outcome w)
    (hafter : ∀ q, call.request = .ok q → C (w.receive q) → cancels) :
    call.Course guarded timeout cancels w.traffic
      ((Run.within guarded timeout call.start).outcome w).1
      ((Run.within guarded timeout call.start).outcome w).2.traffic := by
  cases hrequest : call.request with
  | error e =>
    rw [Run.outcome_bind_error (outcome_start_error hrequest w)] at hs
    rw [outcome_within_error hs]
    exact .unformed e hstart hrequest rfl rfl
  | ok q =>
    rw [Run.outcome_bind_ok (outcome_start_ok hrequest w)] at hs
    obtain ⟨ending, w', hw', htraffic, hend⟩ := hends
      { delay := (w.replyFor q).delay, result := call.resultOf q (w.replyFor q) } (w.receive q)
    rw [outcome_within_ok (hs.trans hw')]
    simp only [htraffic, World.traffic_receive]
    exact .of_endsIn hstart hrequest (hend.imp_right fun h =>
      h.imp_right fun h => ⟨hafter q hrequest h.1, h.2⟩)

/-- A call under a deadline takes one of its courses. -/
theorem course_within (call : Call α) (guarded : Bool) (timeout : Option Seconds) (w : World)
    (cancels : Prop) (hbefore : guarded = true → w.token.isCancelled = true → cancels)
    (hafter : ∀ q, guarded = true → call.request = .ok q →
      ((w.receive q).token.cancelTime? (w.receive q).now).isSome = true → cancels) :
    call.Course guarded timeout cancels w.traffic
      ((Run.within guarded timeout call.start).outcome w).1
      ((Run.within guarded timeout call.start).outcome w).2.traffic := by
  cases guarded with
  | true =>
    have hs := outcome_supervise_guarded timeout call.start w
    by_cases hcancelled : w.token.isCancelled = true
    · rw [if_pos hcancelled] at hs
      rw [outcome_within_ok hs]
      exact .unheeded _ (hbefore rfl hcancelled) rfl rfl rfl
    rw [if_neg hcancelled] at hs
    by_cases hun : Run.isUncountable timeout = true
    · rw [if_pos hun] at hs
      rw [outcome_within_ok hs]
      exact .uncountable hun (.inl rfl) rfl rfl
    rw [if_neg hun] at hs
    exact course_of_started (Pending.superviseGuarded_endsIn timeout) (by simp [mayStart, hun]) hs
      fun q => hafter q rfl
  | false =>
    have hs := outcome_supervise_unguarded timeout call.start w
    by_cases hpassed : Run.hasPassed timeout = true
    · rw [if_pos hpassed] at hs
      rw [outcome_within_ok hs]
      exact .passed rfl hpassed rfl rfl
    rw [if_neg hpassed] at hs
    by_cases hun : Run.isUncountable timeout = true
    · rw [if_pos hun] at hs
      rw [outcome_within_ok hs]
      exact .uncountable hun (.inr (by simpa using hpassed)) rfl rfl
    rw [if_neg hun] at hs
    exact course_of_started (C := fun _ => False)
      (Pending.superviseUnguarded_endsIn timeout) (by simp [mayStart, hun, hpassed]) hs
      fun _ _ => False.elim

/-! ## Replies that are heard -/

/-- A reply is heard: its call may start and its request can be put together, it comes in time, and
nothing that the call heeds is cancelled before. -/
structure IsHeard (call : Call α) (guarded : Bool) (timeout : Option Seconds) (w : World)
    (q : Request) : Prop where
  start : mayStart guarded timeout = true
  heeded : guarded = true → w.token.isCancelled = false
  request : call.request = .ok q
  inTime : (w.replyFor q).isInTime timeout = true
  waited : guarded = true → Race.isUpTo (w.replyFor q).delay
    (((w.receive q).token.cancelTime? (w.receive q).now).map (· - (w.receive q).now)) = true

theorem IsHeard.with_journal {call : Call α} {guarded : Bool} {timeout : Option Seconds}
    {w : World} {q : Request} (h : call.IsHeard guarded timeout w q) (journal : List Entry) :
    call.IsHeard guarded timeout { w with journal } q where
  start := h.start
  heeded := h.heeded
  request := h.request
  inTime := h.inTime
  waited hguarded := by
    rw [World.receive_journal]
    exact h.waited hguarded

/-- A call whose reply is heard gives what its reply gives. -/
theorem outcome_within_heard {call : Call α} {guarded : Bool} {timeout : Option Seconds}
    {w : World} {q : Request} (h : call.IsHeard guarded timeout w q) :
    ((Run.within guarded timeout call.start).outcome w).1 =
      call.resultOf q (w.replyFor q) := by
  obtain ⟨hcountable, hput⟩ := mayStart_iff.1 h.start
  cases guarded with
  | true =>
    have hs := outcome_supervise_guarded timeout call.start w
    rw [h.heeded rfl, if_neg (by simp), hcountable, if_neg (by simp),
      Run.outcome_bind_ok (outcome_start_ok h.request w)] at hs
    have hfinish : Race.finish (w.replyFor q).delay (timeout.bind Seconds.toRat?)
        (((w.receive q).token.cancelTime? (w.receive q).now).map (· - (w.receive q).now)) =
          (.call, (w.replyFor q).delay) := Race.finish_call h.inTime (h.waited rfl)
    simp only [Pending.superviseGuarded, Run.outcome_bind, Run.outcome_get, hfinish,
      Pending.comesBefore, Option.bind_none, Run.outcome_pass, Run.outcome_pure] at hs
    rw [outcome_within_ok hs]
    rfl
  | false =>
    have hs := outcome_supervise_unguarded timeout call.start w
    have hpassed : Run.hasPassed timeout = false := by simpa using hput
    rw [hpassed, if_neg (by simp), hcountable, if_neg (by simp),
      Run.outcome_bind_ok (outcome_start_ok h.request w)] at hs
    have hfinish : Race.finish (w.replyFor q).delay (timeout.bind Seconds.toRat?) none =
        (.call, (w.replyFor q).delay) := Race.finish_call h.inTime rfl
    simp only [Pending.superviseUnguarded, Run.outcome_bind, hfinish,
      Pending.comesBefore, Option.bind_none, Run.outcome_pass, Run.outcome_pure] at hs
    rw [outcome_within_ok hs]
    rfl

/-- A guarded call under a deadline takes one of its courses; in a calm run it is not cancelled. -/
theorem obeys_within (call : Call α) (timeout : Option Seconds) :
    (Run.within true timeout call.start).Obeys fun t res t' =>
      call.Course true timeout (t.isCalm = false) t res t' := by
  intro w
  refine course_within call true timeout w _ (fun _ h => ?_) fun q _ _ h => ?_
  · exact World.isCalm_eq_false_of_isCancelled h
  · exact (w.isCalm_receive q).symm.trans (World.isCalm_eq_false_of_cancelTime? h)

/-- What a call does that is waited for as long as it takes. -/
def Performs (call : Call α) (t : Traffic) (res : Except Failure α) (t' : Traffic) : Prop :=
  (∃ e, call.request = .error e ∧ res = .error e ∧ t' = t) ∨
    ∃ q, call.request = .ok q ∧ res = call.resultOf q (t.replyFor q) ∧ t' = t.send q

theorem obeys_perform (call : Call α) : call.perform.Obeys call.Performs := by
  intro w
  cases hrequest : call.request with
  | error e =>
    rw [outcome_perform_error hrequest]
    exact .inl ⟨e, hrequest, rfl, rfl⟩
  | ok q =>
    rw [outcome_perform_ok hrequest]
    refine .inr ⟨q, hrequest, ?_, ?_⟩
    · rw [World.replyFor_traffic]
    · simp

end Call

end InlineReview
