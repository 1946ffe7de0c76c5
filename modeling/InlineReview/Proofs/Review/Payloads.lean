import InlineReview.Proofs.Json.Files
import InlineReview.Proofs.Review.Escapes

/-!
# Events that cannot be used

A file may hold no event.  The action has a status for this, one, but it does not handle every
fault: where reading the file stops, at octets that are no text or at a limit of the reader,
nobody handles the fault and the action fails.

* `Event.isHandled_load_iff` — the files of which every fault is handled.
* `Action.outcome_run_unloaded` — the end of an action that has no event.
* `Action.load_handled_iff` — both of it.
-/

namespace InlineReview

namespace Event

variable {store : FileStore} {path : Path}

/-- Every fault of loading is handled exactly if reading the file does not stop. -/
theorem isHandled_load_iff :
    (∀ fault, load store path = .error fault → Action.isEventFailure (.event fault) = true) ↔
      ¬ store.StopsReading path := by
  rw [FileStore.stopsReading_iff]
  unfold load
  cases htext : store.text path with
  | error fault => cases fault <;> simp [Action.isEventFailure]
  | ok t =>
    cases hread : Json.readL t with
    | error fault => cases fault <;> simp [hread, Action.isEventFailure]
    | ok v => cases hevent : ofJson? v <;> simp [hread, hevent, Action.isEventFailure]

end Event

namespace Action

/-- The world of an action that has ended since there is no event. -/
def unloaded (fault : EventFault) (w : World) : World :=
  { listening w with journal := w.journal ++ [{ level := .error, context := [], message :=
    s!"=== FAILURE: Unable to load the event payload | Error: {fault.message} ===" }] }

/-- How an action ends that has no event: with status one, or, where reading the file stops, with
the fault itself.  In either case it has done nothing else. -/
inductive EndsUnloaded (stops : Prop) (fault : EventFault) (w : World) :
    Except Failure Nat × World → Prop
  /-- The fault is handled. -/
  | handled (h : ¬ stops) : EndsUnloaded stops fault w (.ok 1, unloaded fault w)
  /-- The fault escapes. -/
  | escaped (h : stops) : EndsUnloaded stops fault w (.error (.event fault), listening w)

variable {env : Environment} {s : Settings} {fault : EventFault} {w : World}

/-- An action that has no event ends in one of the two ways. -/
theorem outcome_run_unloaded (hsettings : Settings.ofEnvironment env = .ok s)
    (hload : Event.load w.files s.eventPath = .error fault) :
    EndsUnloaded (w.files.StopsReading s.eventPath) fault w ((run env).outcome w) := by
  have hfailed : (runReview s).outcome (listening w) = (.error (.event fault), listening w) :=
    outcome_runReview_unread hload
  rw [outcome_run hsettings, hfailed]
  by_cases hhandled : isEventFailure (.event fault) = true
  · have hreads : ¬ w.files.StopsReading s.eventPath := by
      refine Event.isHandled_load_iff.1 fun other hother => ?_
      rwa [Except.error.inj (hother.symm.trans hload)]
    simp only [if_pos hhandled]
    exact .handled hreads
  · have hstops : w.files.StopsReading s.eventPath := by
      by_contra hreads
      exact hhandled (Event.isHandled_load_iff.2 hreads fault hload)
    simp only [if_neg hhandled]
    exact .escaped hstops

/-- Every fault of loading an event is handled exactly if reading the file does not stop, and an
action that has no event has status one then and otherwise fails with the fault. -/
theorem load_handled_iff (env : Environment) (w : World) :
    (∀ store path, (∀ fault, Event.load store path = .error fault →
        isEventFailure (.event fault) = true) ↔ ¬ FileStore.StopsReading store path) ∧
      ∀ s fault, Settings.ofEnvironment env = .ok s →
        Event.load w.files s.eventPath = .error fault →
        EndsUnloaded (w.files.StopsReading s.eventPath) fault w ((run env).outcome w) :=
  ⟨fun _ _ => Event.isHandled_load_iff, fun _ _ => outcome_run_unloaded⟩

/-- A place with nothing but an octet that begins no character. -/
def garbledStore : FileStore :=
  [({ twoSlashes := false, components := ["e"] }, .content [0xFF])]

theorem eventPath_plainEnvironment :
    ∃ s, Settings.ofEnvironment plainEnvironment = .ok s ∧ s.eventPath = Path.ofText "/e" := by
  have hpath : (Settings.ofEnvironment plainEnvironment).toOption.map (·.eventPath) =
      some (Path.ofText "/e") := by decide +kernel
  cases hsettings : Settings.ofEnvironment plainEnvironment with
  | error fault =>
    rw [hsettings] at hpath
    cases hpath
  | ok s =>
    rw [hsettings] at hpath
    exact ⟨s, rfl, Option.some.inj hpath⟩

theorem load_garbledStore : Event.load garbledStore (Path.ofText "/e") =
    .error (.decoding ⟨"utf-8", 0, [0xFF], .invalidStart⟩) :=
  rfl

/-- An event that is missing is handled, and the action has status one. -/
theorem load_handled_missing :
    ∃ s fault, Settings.ofEnvironment plainEnvironment = .ok s ∧
      Event.load [] s.eventPath = .error fault ∧ isEventFailure (.event fault) = true ∧
      ((run plainEnvironment).outcome {}).1 = .ok 1 := by
  obtain ⟨s, hsettings, hpath⟩ := eventPath_plainEnvironment
  obtain ⟨fault, hload⟩ : ∃ fault, Event.load [] s.eventPath = .error fault := by
    rw [hpath]
    exact ⟨_, rfl⟩
  obtain ⟨hhandled, hends⟩ := load_handled_iff plainEnvironment {}
  have hreads : ¬ FileStore.StopsReading [] s.eventPath := by
    refine (hhandled [] s.eventPath).1 fun other hother => ?_
    rw [hpath] at hother
    obtain rfl := Except.error.inj hother
    rfl
  refine ⟨s, fault, hsettings, hload, (hhandled [] s.eventPath).2 hreads fault hload, ?_⟩
  generalize houtcome : (run plainEnvironment).outcome {} = ended
  have hended := hends s fault hsettings hload
  rw [houtcome] at hended
  cases hended with
  | handled h => rfl
  | escaped h => exact absurd h hreads

/-- An event that is no text is not handled, and the action fails. -/
theorem run_garbledEvent :
    ∃ s fault, Settings.ofEnvironment plainEnvironment = .ok s ∧
      Event.load garbledStore s.eventPath = .error fault ∧
      isEventFailure (.event fault) = false ∧
      ((run plainEnvironment).outcome { files := garbledStore }).1 = .error (.event fault) := by
  obtain ⟨s, hsettings, hpath⟩ := eventPath_plainEnvironment
  have hload := load_garbledStore
  rw [← hpath] at hload
  refine ⟨s, _, hsettings, hload, rfl, ?_⟩
  rw [outcome_run hsettings, outcome_runReview_unread (w := listening { files := garbledStore })
    hload]
  rfl

end Action

end InlineReview
