import InlineReview.Proofs.Run.Racing

/-!
# How supervised calls end

A call that takes some time races against its deadline and the first cancellation of the token.
Whichever comes first decides: the call gives its own result, the deadline passes, or the run is
cancelled with the reason of that first cancellation.  A token that has been cancelled before keeps
the call from starting, and without a token a call ends as it would under one that is never
cancelled.

* `Run.Decided` — what decides how a call ends.
* `Run.exists_decided` — something decides, unless two come at one time.
* `Run.within_decided` — how every supervised call ends.
* `Run.within_uncountable` — a deadline that no clock can count.
-/

namespace InlineReview

/-! ## Calls -/

namespace Run

variable {α : Type}

/-- Does a call that is started in a world end with a result some seconds after its start, if
nothing stops it?  A call that fails at its start takes no time. -/
inductive Takes (start : Run (Pending α)) (w : World) : Rat → Except Failure α → World → Prop
  | runs {call : Pending α} {w₁ : World} (starts : start.outcome w = (.ok call, w₁)) :
      Takes start w call.delay call.result w₁
  | fails {e : Failure} {w₁ : World} (starts : start.outcome w = (.error e, w₁)) :
      Takes start w 0 (.error e) w₁

/-- What decides how a call ends that takes some seconds, and its result. -/
inductive Decided (timeout : Option Seconds) (w : World) (delay : Rat) (result : Except Failure α) :
    Except Failure α → Prop
  /-- It finishes before its deadline, and no later than the first cancellation. -/
  | finished (uncancelled : ∀ c reason, w.CancelsAfter c reason → delay ≤ c)
      (inTime : ∀ t ∈ timeout.bind Seconds.toRat?, delay < t) :
      Decided timeout w delay result result
  /-- It is cancelled before it finishes and before its deadline. -/
  | cancelled {c : Rat} {reason : String} (cancels : w.CancelsAfter c reason) (started : 0 ≤ c)
      (unfinished : c < delay) (inTime : ∀ t ∈ timeout.bind Seconds.toRat?, c < t) :
      Decided timeout w delay result (.error (.cancelled (Token.toldReason reason)))
  /-- Its deadline passes before it finishes and before the first cancellation. -/
  | late {t : Rat} (passes : timeout.bind Seconds.toRat? = some t) (unfinished : t < delay)
      (uncancelled : ∀ c reason, w.CancelsAfter c reason → t < c) :
      Decided timeout w delay result (.error (.deadline (timeout.map Seconds.text)))

/-- What a call gives whose race has ended: its result, or how it was stopped. -/
def endOf (result : Except Failure α) (cancelled late : Failure) : Finish → Except Failure α
  | .call => result
  | .cancellation => .error cancelled
  | .deadline => .error late

/-- Where no two of them come at one time, one of the three decides. -/
theorem exists_decided {timeout : Option Seconds} {w : World} {delay : Rat}
    (result : Except Failure α) (hcall : timeout.bind Seconds.toRat? ≠ some delay)
    (hstarted : ∀ c reason, w.CancelsAfter c reason → 0 ≤ c)
    (hapart : ∀ c reason, w.CancelsAfter c reason → timeout.bind Seconds.toRat? ≠ some c) :
    ∃ decided, Decided timeout w delay result decided := by
  by_cases hcancels : ∃ c reason, w.CancelsAfter c reason ∧ c < delay
  · obtain ⟨c, reason, hc, hunfinished⟩ := hcancels
    have honly : ∀ c' reason', w.CancelsAfter c' reason' → c' = c := fun c' reason' h =>
      Option.some.inj ((World.map_cancelTime?_eq_some_iff.2 ⟨reason', h⟩).symm.trans
        (World.map_cancelTime?_eq_some_iff.2 ⟨reason, hc⟩))
    by_cases htime : ∀ t ∈ timeout.bind Seconds.toRat?, c < t
    · exact ⟨_, .cancelled hc (hstarted c reason hc) hunfinished htime⟩
    · push Not at htime
      obtain ⟨t, ht, hle⟩ := htime
      have hlt : t < c := lt_of_le_of_ne hle fun heq => hapart c reason hc (heq ▸ ht)
      refine ⟨_, .late ht (hlt.trans hunfinished) fun c' reason' h => ?_⟩
      rwa [honly c' reason' h]
  · push Not at hcancels
    by_cases htime : ∀ t ∈ timeout.bind Seconds.toRat?, delay < t
    · exact ⟨_, .finished hcancels htime⟩
    · push Not at htime
      obtain ⟨t, ht, hle⟩ := htime
      have hlt : t < delay := lt_of_le_of_ne hle fun heq => hcall (heq ▸ ht)
      exact ⟨_, .late ht hlt fun c reason h => hlt.trans_le (hcancels c reason h)⟩

section Within

variable {start : Run (Pending α)} {timeout : Option Seconds} {w w₁ : World}

/-- A guarded call that has been started ends as its race does. -/
theorem within_guarded_of_starts {call : Pending α} (hfree : w.token.isCancelled = false)
    (hcountable : isUncountable timeout = false) (hstarts : start.outcome w = (.ok call, w₁))
    {finish : Finish} {elapsed : Rat}
    (hrace : Race.finish call.delay (timeout.bind Seconds.toRat?)
      ((w₁.token.cancelTime? w₁.now).map (· - w₁.now)) = (finish, elapsed)) :
    ((within true timeout start).outcome w).1 =
      endOf call.result (.cancelled (w₁.pass elapsed).token.reasonText)
        (.deadline (timeout.map Seconds.text)) finish := by
  have hs := Call.outcome_supervise_guarded timeout start w
  rw [hfree, if_neg (by simp), hcountable, if_neg (by simp), outcome_bind_ok hstarts] at hs
  simp only [Pending.superviseGuarded, Pending.comesBefore, outcome_bind, outcome_get, hrace,
    Option.bind_none, Option.map_none, Option.getD_none, outcome_pass] at hs
  cases finish <;> rw [Call.outcome_within_ok hs] <;> rfl

/-- A call without guard that has been started ends as its race without a cancellation does. -/
theorem within_unguarded_of_starts {call : Pending α} (hopen : hasPassed timeout = false)
    (hcountable : isUncountable timeout = false) (hstarts : start.outcome w = (.ok call, w₁))
    {finish : Finish} {elapsed : Rat}
    (hrace : Race.finish call.delay (timeout.bind Seconds.toRat?) none = (finish, elapsed)) :
    ((within false timeout start).outcome w).1 =
      endOf call.result (.deadline none) (.deadline none) finish := by
  have hs := Call.outcome_supervise_unguarded timeout start w
  rw [hopen, if_neg (by simp), hcountable, if_neg (by simp), outcome_bind_ok hstarts] at hs
  simp only [Pending.superviseUnguarded, Pending.comesBefore, outcome_bind, hrace,
    Option.bind_none, outcome_pass] at hs
  cases finish <;> rw [Call.outcome_within_ok hs] <;> rfl

/-- A guarded call that may start fails as it does at its start. -/
theorem within_guarded_of_fails {e : Failure} (hfree : w.token.isCancelled = false)
    (hcountable : isUncountable timeout = false) (hfails : start.outcome w = (.error e, w₁)) :
    ((within true timeout start).outcome w).1 = .error e := by
  have hs := Call.outcome_supervise_guarded timeout start w
  rw [hfree, if_neg (by simp), hcountable, if_neg (by simp), outcome_bind_error hfails] at hs
  rw [Call.outcome_within_error hs]

theorem within_unguarded_of_fails {e : Failure} (hopen : hasPassed timeout = false)
    (hcountable : isUncountable timeout = false) (hfails : start.outcome w = (.error e, w₁)) :
    ((within false timeout start).outcome w).1 = .error e := by
  have hs := Call.outcome_supervise_unguarded timeout start w
  rw [hopen, if_neg (by simp), hcountable, if_neg (by simp), outcome_bind_error hfails] at hs
  rw [Call.outcome_within_error hs]

/-- A call does not start once the token has been cancelled. -/
theorem within_of_cancelled {reason : String} (h : w.token.reason = some reason) :
    (within true timeout start).outcome w =
      (.error (.cancelled (Token.toldReason reason)), w) := by
  have hs := Call.outcome_supervise_guarded timeout start w
  have hcancelled : w.token.isCancelled = true := by rw [Token.isCancelled, h]; rfl
  rw [if_pos hcancelled, Token.reasonText_of_reason h] at hs
  rw [Call.outcome_within_ok hs]
  rfl

theorem deadline_pos (hpositive : ∀ t ∈ timeout, t.IsPositive) {t : Rat}
    (ht : timeout.bind Seconds.toRat? = some t) : 0 < t := by
  obtain ⟨seconds, hseconds, ht⟩ := Option.bind_eq_some_iff.1 ht
  exact (hpositive seconds hseconds).toRat?_pos ht

theorem not_hasPassed (hpositive : ∀ t ∈ timeout, t.IsPositive) : hasPassed timeout = false := by
  unfold hasPassed
  rw [Option.any_eq_false]
  intro t ht
  simpa using deadline_pos hpositive ht

/-- What decides how a guarded call ends is what comes first. -/
theorem within_eq_of_decided {delay : Rat} {result decided : Except Failure α}
    (hfree : w.token.reason = none) (hpositive : ∀ t ∈ timeout, t.IsPositive)
    (hcountable : isUncountable timeout = false) (htakes : Takes start w delay result w₁)
    (h : Decided timeout w₁ delay result decided) :
    ((within true timeout start).outcome w).1 = decided := by
  have hopen := Token.isCancelled_of_reason_eq_none hfree
  cases htakes with
  | fails starts =>
    rw [within_guarded_of_fails hopen hcountable starts]
    cases h with
    | finished => rfl
    | cancelled cancels started unfinished => exact absurd started (not_le.2 unfinished)
    | late passes unfinished =>
      exact absurd (deadline_pos hpositive passes) (not_lt.2 unfinished.le)
  | @runs call w₁ starts =>
    cases h with
    | finished uncancelled inTime =>
      have hup : Race.isUpTo call.delay
          ((w₁.token.cancelTime? w₁.now).map (· - w₁.now)) = true := by
        rw [Race.isUpTo_iff]
        intro c hc
        obtain ⟨reason, hcancels⟩ := World.map_cancelTime?_eq_some_iff.1 hc
        exact uncancelled c reason hcancels
      have hin : (call.delay = 0 || Race.isBefore call.delay (timeout.bind Seconds.toRat?)) =
          true := by
        rw [Race.isBefore_iff.2 inTime, Bool.or_true]
      exact within_guarded_of_starts hopen hcountable starts (Race.finish_call hin hup)
    | @cancelled c reason cancels started unfinished inTime =>
      have hrace : Race.finish call.delay (timeout.bind Seconds.toRat?)
          ((w₁.token.cancelTime? w₁.now).map (· - w₁.now)) = (.cancellation, c) := by
        rw [World.map_cancelTime?_eq_some_iff.2 ⟨reason, cancels⟩]
        exact Race.finish_cancellation unfinished inTime
      rw [within_guarded_of_starts hopen hcountable starts hrace, endOf, cancels.reasonText]
    | @late t passes unfinished uncancelled =>
      have hrace : Race.finish call.delay (timeout.bind Seconds.toRat?)
          ((w₁.token.cancelTime? w₁.now).map (· - w₁.now)) = (.deadline, t) := by
        rw [passes]
        refine Race.finish_deadline (deadline_pos hpositive passes) unfinished fun c hc => ?_
        obtain ⟨reason, hcancels⟩ := World.map_cancelTime?_eq_some_iff.1 hc
        exact uncancelled c reason hcancels
      exact within_guarded_of_starts hopen hcountable starts hrace

end Within

/-! ## Calls without a token -/

/-- Are two results the same, but for the text of a deadline that has passed? -/
def IsSameButText (timeout : Option Seconds) (res guarded : Except Failure α) : Prop :=
  res = guarded ∨
    (res = .error (.deadline none) ∧ guarded = .error (.deadline (timeout.map Seconds.text)))

section Unguarded

variable {start : Run (Pending α)} {timeout : Option Seconds} {w v w₁ v₁ : World}

/-- A call without a token ends as it does under one that is never cancelled. -/
theorem within_unguarded {delay : Rat} {result : Except Failure α}
    (hpositive : ∀ t ∈ timeout, t.IsPositive) (hunguarded : Takes start w delay result w₁)
    (hguarded : Takes start v delay result v₁) (hfree : v.token.reason = none)
    (hnever : ∀ c reason, ¬ v₁.CancelsAfter c reason) :
    IsSameButText timeout ((within false timeout start).outcome w).1
      ((within true timeout start).outcome v).1 := by
  have hopen := Token.isCancelled_of_reason_eq_none hfree
  have hahead := not_hasPassed hpositive
  cases hcountable : isUncountable timeout with
  | true =>
    have hs := Call.outcome_supervise_unguarded timeout start w
    have hv := Call.outcome_supervise_guarded timeout start v
    rw [hahead, if_neg (by simp), if_pos hcountable] at hs
    rw [hopen, if_neg (by simp), if_pos hcountable] at hv
    rw [Call.outcome_within_ok hs, Call.outcome_within_ok hv]
    exact .inl rfl
  | false =>
    have hnone : (v₁.token.cancelTime? v₁.now).map (· - v₁.now) = none := by
      rw [Option.eq_none_iff_forall_ne_some]
      intro c hc
      obtain ⟨reason, hcancels⟩ := World.map_cancelTime?_eq_some_iff.1 hc
      exact hnever c reason hcancels
    -- without a cancellation both calls have the same race, which one that fails at once wins
    rcases hrace : Race.finish delay (timeout.bind Seconds.toRat?) none with ⟨finish, elapsed⟩
    have hunstopped : finish ≠ .cancellation := by
      rintro rfl
      have hcases := Race.finish_cases delay (timeout.bind Seconds.toRat?) none
      simp [hrace] at hcases
    have hleft : ((within false timeout start).outcome w).1 =
        endOf result (.deadline none) (.deadline none) finish := by
      cases hunguarded with
      | runs starts => exact within_unguarded_of_starts hahead hcountable starts hrace
      | fails starts =>
        obtain ⟨rfl, -⟩ := Prod.mk.inj ((Race.finish_call rfl rfl).symm.trans hrace)
        exact within_unguarded_of_fails hahead hcountable starts
    have hright : ∃ cancelled, ((within true timeout start).outcome v).1 =
        endOf result cancelled (.deadline (timeout.map Seconds.text)) finish := by
      cases hguarded with
      | runs starts =>
        exact ⟨_, within_guarded_of_starts hopen hcountable starts (by rw [hnone]; exact hrace)⟩
      | fails starts =>
        obtain ⟨rfl, -⟩ := Prod.mk.inj ((Race.finish_call rfl rfl).symm.trans hrace)
        exact ⟨.uncountable, within_guarded_of_fails hopen hcountable starts⟩
    obtain ⟨cancelled, hright⟩ := hright
    rw [hleft, hright]
    cases finish with
    | call => exact .inl rfl
    | deadline => exact .inr ⟨rfl, rfl⟩
    | cancellation => exact absurd rfl hunstopped

end Unguarded

/-! ## How calls end -/

/-- A call that was started before ends as one that starts then. -/
theorem superviseStarted_eq_within {timeout : Option Seconds}
    (hpositive : ∀ t ∈ timeout, t.IsPositive) (guarded : Bool) (call : Pending α) (w : World) :
    ∃ ending w', (superviseStarted guarded timeout none call).outcome w = (.ok ending, w') ∧
      (within guarded timeout (pure call)).outcome w = (ending.result, w') := by
  have hahead := not_hasPassed hpositive
  cases guarded with
  | true =>
    have hs := Call.outcome_supervise_guarded timeout (pure call) w
    obtain ⟨ending, w', hends, -, -⟩ := Pending.superviseGuarded_endsIn timeout call w
    rw [superviseStarted, outcome_bind_ok (outcome_get w), if_pos rfl]
    by_cases hcancelled : w.token.isCancelled = true
    · rw [if_pos hcancelled] at hs ⊢
      have hwithin := Call.outcome_within_ok hs
      exact ⟨_, _, rfl, hwithin⟩
    · rw [if_neg hcancelled] at hs ⊢
      by_cases hcountable : isUncountable timeout = true
      · rw [if_pos hcountable] at hs ⊢
        have hwithin := Call.outcome_within_ok hs
        exact ⟨_, _, rfl, hwithin⟩
      · rw [if_neg hcountable] at hs ⊢
        exact ⟨ending, w', hends, Call.outcome_within_ok (hs.trans hends)⟩
  | false =>
    have hs := Call.outcome_supervise_unguarded timeout (pure call) w
    obtain ⟨ending, w', hends, -, -⟩ := Pending.superviseUnguarded_endsIn timeout call w
    rw [superviseStarted, outcome_bind_ok (outcome_get w), if_neg (by simp)]
    simp only [hahead, Bool.not_false, Bool.and_true]
    rw [hahead, if_neg (by simp)] at hs
    by_cases hcountable : isUncountable timeout = true
    · rw [if_pos hcountable] at hs ⊢
      have hwithin := Call.outcome_within_ok hs
      exact ⟨_, _, rfl, hwithin⟩
    · rw [if_neg hcountable] at hs ⊢
      exact ⟨ending, w', hends, Call.outcome_within_ok (hs.trans hends)⟩

/-- How a call ends under a deadline that lies ahead.  A token keeps the reason of its first
cancellation, and once it has been cancelled no call starts.  Otherwise what comes first decides,
and something does, unless two come at one time: the call finishes, it is cancelled with the reason of
the first cancellation, or its deadline passes.  Without a token it ends as under one that is never
cancelled, and a call that was started before ends as one that starts then. -/
theorem within_decided {timeout : Option Seconds} (hpositive : ∀ t ∈ timeout, t.IsPositive) :
    (∀ (t : Token) (first : String) (later : List String), t.reason = none →
      (later.foldl (fun t reason => t.cancel reason) (t.cancel first)).reason = some first) ∧
    (∀ (start : Run (Pending α)) (w : World) (reason : String), w.token.reason = some reason →
      (within true timeout start).outcome w =
        (.error (.cancelled (Token.toldReason reason)), w)) ∧
    ((∀ t ∈ timeout, t.isCountable = true) →
      ∀ (start : Run (Pending α)) (w w₁ : World) (delay : Rat) (result : Except Failure α),
        w.token.reason = none → Takes start w delay result w₁ →
        (∀ decided, Decided timeout w₁ delay result decided →
          ((within true timeout start).outcome w).1 = decided) ∧
        (timeout.bind Seconds.toRat? ≠ some delay →
          (∀ c reason, w₁.CancelsAfter c reason → 0 ≤ c ∧ timeout.bind Seconds.toRat? ≠ some c) →
          ∃ decided, Decided timeout w₁ delay result decided)) ∧
    (∀ (start : Run (Pending α)) (w v w₁ v₁ : World) (delay : Rat) (result : Except Failure α),
      Takes start w delay result w₁ → Takes start v delay result v₁ → v.token.reason = none →
      (∀ c reason, ¬ v₁.CancelsAfter c reason) →
      IsSameButText timeout ((within false timeout start).outcome w).1
        ((within true timeout start).outcome v).1) ∧
    ∀ (guarded : Bool) (call : Pending α) (w : World), ∃ ending w',
      (superviseStarted guarded timeout none call).outcome w = (.ok ending, w') ∧
        (within guarded timeout (pure call)).outcome w = (ending.result, w') := by
  refine ⟨fun t first later hfree => ?_, fun start w reason => within_of_cancelled, ?_, ?_,
    superviseStarted_eq_within hpositive⟩
  · rw [Token.reason_cancelAll, hfree]
    rfl
  · intro hcountable start w w₁ delay result hfree htakes
    have hcount : isUncountable timeout = false := by
      unfold isUncountable
      rw [Option.any_eq_false]
      intro t ht
      simp [hcountable t ht]
    refine ⟨fun decided hdecided => ?_, fun hcall hcancels => ?_⟩
    · exact within_eq_of_decided hfree hpositive hcount htakes hdecided
    · exact exists_decided result hcall (fun c reason h => (hcancels c reason h).1)
        fun c reason h => (hcancels c reason h).2
  · intro start w v w₁ v₁ delay result hunguarded hguarded hfree hnever
    exact within_unguarded hpositive hunguarded hguarded hfree hnever

/-- A world with two alarms, of which the second that was set goes off first. -/
def alarmedWorld : World := { token := { alarms := [⟨7, "later"⟩, ⟨3, ""⟩] } }

/-- A world whose token has been cancelled. -/
def cancelledWorld : World := { token := { reason := some "stop" } }

/-- A call that takes five seconds. -/
def slowCall : Pending Nat := { delay := 5, result := .ok 1 }

theorem alarmedWorld_cancelsAfter : alarmedWorld.CancelsAfter (3 - 0) "" := by
  have hfirst : Token.IsFirst ⟨3, ""⟩ alarmedWorld.token.alarms := by
    refine ⟨[⟨7, "later"⟩], [], rfl, ?_, by simp⟩
    intro b hb
    rw [List.mem_singleton.1 hb]
    norm_num
  exact .alarm rfl hfirst

/-- The call is cancelled by the first alarm, whose reason is empty, does not start once its token
has been cancelled, and has the same result with and without a token that is never cancelled. -/
theorem within_slowCall :
    (∀ t ∈ some (Seconds.whole 10), t.IsPositive) ∧
    (∀ t ∈ some (Seconds.whole 10), t.isCountable = true) ∧
    (within true (some (.whole 10)) (pure slowCall)).outcome cancelledWorld =
      (.error (.cancelled "stop"), cancelledWorld) ∧
    Takes (pure slowCall) alarmedWorld 5 (.ok 1) alarmedWorld ∧
    Decided (some (.whole 10)) alarmedWorld 5 (.ok 1)
      (.error (.cancelled "Review run cancelled") : Except Failure Nat) ∧
    ((within true (some (.whole 10)) (pure slowCall)).outcome alarmedWorld).1 =
      .error (.cancelled "Review run cancelled") ∧
    IsSameButText (some (.whole 10))
      ((within false (some (.whole 10)) (pure slowCall)).outcome alarmedWorld).1
      ((within true (some (.whole 10)) (pure slowCall)).outcome {}).1 := by
  have hpositive : ∀ t ∈ some (Seconds.whole 10), t.IsPositive := by
    rintro t ⟨⟩
    exact (by decide : (0 : Int) < 10)
  have hcountable : ∀ t ∈ some (Seconds.whole 10), t.isCountable = true := by
    rintro t ⟨⟩
    decide +kernel
  have htakes : Takes (pure slowCall) alarmedWorld 5 (.ok 1) alarmedWorld := .runs rfl
  have hdecided : Decided (some (.whole 10)) alarmedWorld 5 (.ok 1)
      (.error (.cancelled "Review run cancelled") : Except Failure Nat) := by
    refine .cancelled alarmedWorld_cancelsAfter (by norm_num) (by norm_num) ?_
    rintro t ⟨⟩
    norm_num
  have hnever : ∀ c reason, ¬ World.CancelsAfter {} c reason := World.not_cancelsAfter rfl rfl
  have hends := @within_decided Nat _ hpositive
  refine ⟨hpositive, hcountable, hends.2.1 _ _ "stop" rfl, htakes, hdecided, ?_, ?_⟩
  · exact (hends.2.2.1 hcountable _ _ _ _ _ rfl htakes).1 _ hdecided
  · exact hends.2.2.2.1 _ _ _ _ _ _ _ htakes (.runs rfl) rfl hnever

/-- A whole number of seconds that is out of the range of a clock. -/
def longTime : Seconds := .whole (10 ^ 400)

/-- A call that takes one second. -/
def quickCall : Pending Nat := { delay := 1, result := .ok 3 }

/-- Under a deadline that is out of range, a call does not start, although it would finish in time
and is not cancelled. -/
theorem within_uncountable :
    longTime.IsPositive ∧
    Takes (pure quickCall) {} 1 (.ok 3) {} ∧
    Decided (some longTime) {} 1 (.ok 3) (.ok 3 : Except Failure Nat) ∧
    (within true (some longTime) (pure quickCall)).outcome {} = (.error .uncountable, {}) := by
  have hlong : (1 : Rat) < ((10 ^ 400 : Int) : Rat) := by
    exact_mod_cast one_lt_pow₀ (by decide : (1 : Int) < 10) (by decide : 400 ≠ 0)
  refine ⟨?_, .runs rfl, .finished ?_ ?_, ?_⟩
  · exact Int.pow_pos (by decide)
  · intro c reason h
    exact absurd h (World.not_cancelsAfter rfl rfl c reason)
  · rintro t ⟨⟩
    exact hlong
  · have hs := Call.outcome_supervise_guarded (some longTime) (pure quickCall) {}
    have huncountable : isUncountable (some longTime) = true := by decide +kernel
    rw [if_neg (by decide), if_pos huncountable] at hs
    rw [Call.outcome_within_ok hs]
    rfl

end Run

end InlineReview
