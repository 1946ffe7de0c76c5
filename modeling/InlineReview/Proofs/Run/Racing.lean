import InlineReview.Proofs.Decimal.Order
import InlineReview.Proofs.Run.Deeds
import Mathlib.Tactic.Linarith

/-!
# Races and their moments

The three moments that a race is about: when the call has finished, when the token is first
cancelled, and when the deadline passes.  The first of some alarms is told by what stands before and
after it, and a cancellation or a deadline decides a race if it comes before the other two.

* `Token.firstAlarm?_eq_some_iff` — which alarm goes off first.
* `World.map_cancelTime?_eq_some_iff` — when the token of a world is first cancelled.
* `World.CancelsAfter.reasonText` — which reason it tells then.
* `Race.finish_cancellation`, `Race.finish_deadline` — when a cancellation or a deadline decides.
-/

namespace InlineReview

/-! ## The first alarm -/

namespace Token

theorem isCancelled_of_reason_eq_none {t : Token} (h : t.reason = none) :
    t.isCancelled = false := by
  rw [isCancelled, h]
  rfl

/-- Is an alarm the first of some alarms to go off?  Of those at one time the one that was set first
is. -/
def IsFirst (a : Alarm) (alarms : List Alarm) : Prop :=
  ∃ before after, alarms = before ++ a :: after ∧ (∀ b ∈ before, a.due < b.due) ∧
    ∀ b ∈ after, a.due ≤ b.due

theorem IsFirst.due_le {a b : Alarm} {alarms : List Alarm} (h : IsFirst a alarms)
    (hb : b ∈ alarms) : a.due ≤ b.due := by
  obtain ⟨before, after, rfl, hbefore, hafter⟩ := h
  rcases List.mem_append.1 hb with hb | hb
  · exact (hbefore b hb).le
  · rcases List.mem_cons.1 hb with rfl | hb
    · exact le_refl _
    · exact hafter b hb

theorem isFirst_cons_iff {a b : Alarm} {alarms : List Alarm} :
    IsFirst a (b :: alarms) ↔
      (a = b ∧ ∀ c ∈ alarms, b.due ≤ c.due) ∨ (a.due < b.due ∧ IsFirst a alarms) := by
  constructor
  · rintro ⟨_ | ⟨d, before⟩, after, hsplit, hbefore, hafter⟩
    · obtain ⟨rfl, rfl⟩ := List.cons.inj hsplit
      exact .inl ⟨rfl, hafter⟩
    · obtain ⟨rfl, rfl⟩ := List.cons.inj hsplit
      rw [List.forall_mem_cons] at hbefore
      exact .inr ⟨hbefore.1, before, after, rfl, hbefore.2, hafter⟩
  · rintro (⟨rfl, hafter⟩ | ⟨hlt, before, after, rfl, hbefore, hafter⟩)
    · exact ⟨[], alarms, rfl, by simp, hafter⟩
    · exact ⟨b :: before, after, rfl, List.forall_mem_cons.2 ⟨hlt, hbefore⟩, hafter⟩

theorem firstAlarm?_eq_none_iff {alarms : List Alarm} :
    firstAlarm? alarms = none ↔ alarms = [] := by
  cases alarms with
  | nil => simp [firstAlarm?]
  | cons a rest => cases h : firstAlarm? rest <;> simp [firstAlarm?, h]

theorem firstAlarm?_eq_some_iff {a : Alarm} {alarms : List Alarm} :
    firstAlarm? alarms = some a ↔ IsFirst a alarms := by
  induction alarms generalizing a with
  | nil => simp [firstAlarm?, IsFirst]
  | cons b rest ih =>
    rw [isFirst_cons_iff]
    cases hrest : firstAlarm? rest with
    | none =>
      rw [firstAlarm?_eq_none_iff] at hrest
      subst hrest
      simp [firstAlarm?, IsFirst, eq_comm]
    | some c =>
      have hc : IsFirst c rest := ih.1 hrest
      have honly : ∀ d, IsFirst d rest → d = c := fun d hd =>
        Option.some.inj ((ih.2 hd).symm.trans hrest)
      have hearlier : firstAlarm? (b :: rest) = some (earlier b c) := by rw [firstAlarm?, hrest]
      rw [hearlier, Option.some.injEq, earlier]
      by_cases hlt : c.due < b.due
      · rw [if_pos hlt]
        constructor
        · rintro rfl
          exact .inr ⟨hlt, hc⟩
        · rintro (⟨rfl, hle⟩ | ⟨-, ha⟩)
          · obtain ⟨before, after, rfl, -, -⟩ := hc
            exact absurd hlt (not_lt.2 (hle c (by simp)))
          · exact (honly a ha).symm
      · rw [if_neg hlt]
        constructor
        · rintro rfl
          exact .inl ⟨rfl, fun d hd => (not_lt.1 hlt).trans (hc.due_le hd)⟩
        · rintro (⟨rfl, -⟩ | ⟨ha, hfirst⟩)
          · rfl
          · rw [honly a hfirst] at ha
            exact absurd ha hlt

/-- A reason as it is told: an empty one is replaced. -/
def toldReason (reason : String) : String := if reason = "" then defaultReason else reason

theorem reasonText_of_reason {t : Token} {reason : String} (h : t.reason = some reason) :
    t.reasonText = toldReason reason := by
  unfold reasonText toldReason
  rw [h]
  by_cases hempty : reason = ""
  · rw [hempty]
    rfl
  · rw [if_neg hempty]
    split
    · rename_i hnone
      cases hnone
    · rename_i heq
      exact absurd (Option.some.inj heq) hempty
    · rename_i heq
      exact (Option.some.inj heq).symm

end Token

/-! ## The first cancellation -/

namespace World

/-- Is the token of a world first cancelled after some seconds, with a reason?  If it has been
cancelled, none have to pass. -/
inductive CancelsAfter (w : World) : Rat → String → Prop
  | before {reason : String} (cancelled : w.token.reason = some reason) : CancelsAfter w 0 reason
  | alarm {a : Alarm} (uncancelled : w.token.reason = none)
      (first : Token.IsFirst a w.token.alarms) : CancelsAfter w (a.due - w.now) a.reason

theorem map_cancelTime?_eq_some_iff {w : World} {c : Rat} :
    (w.token.cancelTime? w.now).map (· - w.now) = some c ↔ ∃ reason, w.CancelsAfter c reason := by
  cases hreason : w.token.reason with
  | some reason =>
    have htime : w.token.cancelTime? w.now = some w.now := by
      simp [Token.cancelTime?, Token.isCancelled, hreason]
    rw [htime, Option.map_some, sub_self, Option.some.injEq]
    constructor
    · rintro rfl
      exact ⟨reason, .before hreason⟩
    · rintro ⟨r, h⟩
      cases h with
      | before => rfl
      | alarm uncancelled => cases hreason.symm.trans uncancelled
  | none =>
    have htime : w.token.cancelTime? w.now = (Token.firstAlarm? w.token.alarms).map (·.due) := by
      simp [Token.cancelTime?, Token.isCancelled, hreason]
    rw [htime, Option.map_map, Option.map_eq_some_iff]
    constructor
    · rintro ⟨a, ha, rfl⟩
      exact ⟨a.reason, .alarm hreason (Token.firstAlarm?_eq_some_iff.1 ha)⟩
    · rintro ⟨r, h⟩
      cases h with
      | before cancelled => cases hreason.symm.trans cancelled
      | @alarm a _ first => exact ⟨a, Token.firstAlarm?_eq_some_iff.2 first, rfl⟩

/-- A token without alarms that has not been cancelled never is. -/
theorem not_cancelsAfter {w : World} (hreason : w.token.reason = none)
    (halarms : w.token.alarms = []) (c : Rat) (reason : String) : ¬ w.CancelsAfter c reason := by
  intro h
  cases h with
  | before cancelled => cases hreason.symm.trans cancelled
  | alarm _ first =>
    obtain ⟨before, after, hsplit, -, -⟩ := first
    simp [halarms] at hsplit

/-- When the first cancellation has come, the token tells its reason. -/
theorem CancelsAfter.reasonText {w : World} {c : Rat} {reason : String}
    (h : w.CancelsAfter c reason) :
    (w.pass c).token.reasonText = Token.toldReason reason := by
  apply Token.reasonText_of_reason
  cases h with
  | before cancelled =>
    have hstays : (w.pass 0).token = w.token := Token.atTime_of_cancelled cancelled _
    rw [hstays, cancelled]
  | @alarm a uncancelled first =>
    have hnow : w.now + (a.due - w.now) = a.due := add_sub_cancel _ _
    have hgone : (w.pass (a.due - w.now)).token = w.token.cancel a.reason := by
      simp only [pass, hnow, Token.atTime, Token.firstAlarm?_eq_some_iff.2 first, le_refl, if_true]
    rw [hgone, Token.reason_cancel, uncancelled]
    rfl

end World

/-! ## Deciding a race -/

namespace Race

variable {x : Rat} {m : Option Rat}

theorem isUpTo_iff : isUpTo x m = true ↔ ∀ y ∈ m, x ≤ y := by
  cases m <;> simp [isUpTo]

theorem isBefore_iff : isBefore x m = true ↔ ∀ y ∈ m, x < y := by
  cases m <;> simp [isBefore]

/-- A cancellation decides if it comes before the call finishes and before the deadline. -/
theorem finish_cancellation {delay c : Rat} {deadline : Option Rat} (hcall : c < delay)
    (hdeadline : ∀ t ∈ deadline, c < t) :
    finish delay deadline (some c) = (.cancellation, c) := by
  have hup : isUpTo delay (some c) = false := by
    rw [isUpTo, decide_eq_false_iff_not]
    exact not_le.2 hcall
  unfold finish
  rw [hup, Bool.false_and, if_neg (by simp)]
  cases deadline with
  | none => rfl
  | some t =>
    have hct : c < t := hdeadline t rfl
    have hle : c ≤ if t < 0 then 0 else t := by split <;> linarith
    simp only [Option.map_some, if_pos hle]

/-- A deadline decides if it comes before the call finishes and before a cancellation. -/
theorem finish_deadline {delay t : Rat} {cancellation : Option Rat} (hpositive : 0 < t)
    (hcall : t < delay) (hcancellation : ∀ c ∈ cancellation, t < c) :
    finish delay (some t) cancellation = (.deadline, t) := by
  have hlate : (delay = 0 || isBefore delay (some t)) = false := by
    have hne : delay ≠ 0 := (hpositive.trans hcall).ne'
    have hnot : ¬ delay < t := not_lt.2 hcall.le
    simp [isBefore, hne, hnot]
  have hkept : (if t < 0 then 0 else t) = t := if_neg (not_lt.2 hpositive.le)
  unfold finish
  rw [hlate, Bool.and_false, if_neg (by simp), Option.map_some, hkept]
  cases cancellation with
  | none => rfl
  | some c =>
    have hnot : ¬ c ≤ t := not_le.2 (hcancellation c rfl)
    simp only [if_neg hnot]

end Race

/-! ## Lengths of time -/

namespace Seconds

/-- Is a length of time greater than zero? -/
def IsPositive : Seconds → Prop
  | .whole n => 0 < n
  | .real d => d.isPositive = true

theorem IsPositive.toRat?_pos {t : Seconds} (h : t.IsPositive) {s : Rat} (hs : t.toRat? = some s) :
    0 < s := by
  cases t with
  | whole n =>
    obtain rfl : (n : Rat) = s := Option.some.inj hs
    exact Int.cast_pos.2 h
  | real d =>
    cases d with
    | nan => cases hs
    | infinite negative =>
      cases negative with
      | false => cases hs
      | true => cases h
    | finite negative m e => exact Double.toRat?_pos h hs

end Seconds

end InlineReview
