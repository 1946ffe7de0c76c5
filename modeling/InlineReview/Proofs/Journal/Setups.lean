import InlineReview.Journal.Sinks

/-!
# Setting up again and again

A call to set up may fail after it has removed the sinks, and again after it has added the one for
the console.  What it does to sinks that are not set up does not depend on them, since all of them
are removed first, so that a call after failures is like a first one; and a call that succeeds is the
last that changes anything.

* `SetupCall.installs` — what a call does to sinks that are not set up.
* `SetupCall.outcome_of_not_isReady` — it does not depend on the sinks.
* `Sinks.isSingle_after` — a call leaves at most one sink for the console, and one for a file.
* `Sinks.setups_settle` — the sinks after any calls.
-/

namespace InlineReview

/-- A call to set up: what it wishes for, the environment that it finds, and the directories that
are there or can be made. -/
structure SetupCall where
  usable : Path → Bool
  env : List (String × String)
  wish : SinkWish

namespace Sinks

/-- The sinks for the console. -/
def consoles (s : Sinks) : List Sink := s.installed.filter fun k => k.target = .console

/-- The sinks for a file. -/
def files (s : Sinks) : List Sink := s.installed.filter fun k => (directoryAt? k.target).isSome

/-- Is no entry written twice, neither to the console nor to a file? -/
structure IsSingle (s : Sinks) : Prop where
  console : s.consoles.length ≤ 1
  file : s.files.length ≤ 1

end Sinks

namespace SetupCall

open Sinks

variable {c : SetupCall} {s : Sinks}

/-! ## Single calls -/

/-- The fault of a call if it fails, and the sinks after it. -/
def outcome (c : SetupCall) (s : Sinks) : Option SinkFault × Sinks :=
  setUp c.usable c.env c.wish s

/-- The level of the console that a call wishes for, if there is one of its name. -/
def level? (c : SetupCall) : Option Level := Level.named? (levelName c.env c.wish)

/-- The directory of the file that a call wishes for. -/
def directory? (c : SetupCall) : Option Path := directoryOf c.env c.wish

/-- How a call ends that finds the sinks not set up. -/
inductive Installs (c : SetupCall) : Option SinkFault × Sinks → Prop
  /-- There is no level of the name; no sink is left. -/
  | unknownLevel (hlevel : c.level? = none) :
      Installs c (some (.unknownLevel (levelName c.env c.wish)),
        { installed := [], isReady := false })
  /-- The directory cannot be used; the sink for the console is left. -/
  | noDirectory {level : Level} {directory : Path} (hlevel : c.level? = some level)
      (hdirectory : c.directory? = some directory) (husable : c.usable directory = false) :
      Installs c (some (.noDirectory directory.text),
        { installed := [{ target := .console, level }], isReady := false })
  /-- There is a sink for the console. -/
  | console {level : Level} (hlevel : c.level? = some level) (hdirectory : c.directory? = none) :
      Installs c (none, { installed := [{ target := .console, level }], isReady := true })
  /-- There is a sink for the console, and one for a file. -/
  | file {level : Level} {directory : Path} (hlevel : c.level? = some level)
      (hdirectory : c.directory? = some directory) (husable : c.usable directory = true) :
      Installs c (none,
        { installed := [{ target := .console, level },
            { target := .file directory, level := fileLevel }], isReady := true })

/-- All sinks are removed first, so that it does not matter which there were. -/
theorem outcome_of_not_isReady (h : s.isReady = false) : c.outcome s = c.outcome {} := by
  obtain ⟨installed, isReady⟩ := s
  cases h
  rfl

theorem outcome_of_isReady (h : s.isReady = true) : c.outcome s = (none, s) := if_pos h

theorem installs (h : s.isReady = false) : c.Installs (c.outcome s) := by
  rw [outcome_of_not_isReady h, outcome, setUp, if_neg Bool.false_ne_true, install]
  cases hlevel : c.level? with
  | none =>
    have hconsole : addConsole (levelName c.env c.wish) =
        throw (.unknownLevel (levelName c.env c.wish)) := by
      rw [addConsole, show Level.named? _ = none from hlevel]
    rw [hconsole]
    exact .unknownLevel hlevel
  | some level =>
    have hconsole : addConsole (levelName c.env c.wish) = add { target := .console, level } := by
      rw [addConsole, show Level.named? _ = some level from hlevel]
    rw [hconsole]
    cases hdirectory : c.directory? with
    | none =>
      rw [show directoryOf c.env c.wish = none from hdirectory]
      exact .console hlevel hdirectory
    | some directory =>
      rw [show directoryOf c.env c.wish = some directory from hdirectory]
      cases husable : c.usable directory with
      | false =>
        simp only [addFile, husable]
        exact .noDirectory hlevel hdirectory husable
      | true =>
        simp only [addFile, husable]
        exact .file hlevel hdirectory husable

/-- A call that fails leaves the sinks not set up, and one that succeeds has set them up. -/
theorem Installs.isReady_iff {res : Option SinkFault × Sinks} (h : c.Installs res) :
    res.2.isReady = true ↔ res.1 = none := by
  cases h <;> simp

/-- There is a sink for the console exactly if there is a level of the name. -/
theorem Installs.consoles_eq {res : Option SinkFault × Sinks} (h : c.Installs res) :
    res.2.consoles = c.level?.toList.map fun level => { target := .console, level } := by
  cases h with
  | unknownLevel hlevel => rw [hlevel]; rfl
  | noDirectory hlevel => rw [hlevel]; rfl
  | console hlevel => rw [hlevel]; rfl
  | file hlevel => rw [hlevel]; rfl

theorem Installs.isSingle {res : Option SinkFault × Sinks} (h : c.Installs res) :
    res.2.IsSingle where
  console := by
    rw [h.consoles_eq, List.length_map]
    cases c.level? <;> simp
  file := by
    cases h <;> simp [files, directoryAt?]

/-- A call that succeeds first has found a level of the name. -/
theorem Installs.exists_level {res : Option SinkFault × Sinks} (h : c.Installs res)
    (hres : res.1 = none) : ∃ level, c.level? = some level := by
  cases h with
  | unknownLevel hlevel => cases hres
  | noDirectory hlevel => exact ⟨_, hlevel⟩
  | console hlevel => exact ⟨_, hlevel⟩
  | file hlevel => exact ⟨_, hlevel⟩

/-- A call that fails found the sinks not set up, and leaves them so. -/
theorem isReady_of_fault (h : (c.outcome s).1 ≠ none) : (c.outcome s).2.isReady = false := by
  cases hready : s.isReady with
  | true =>
    rw [outcome_of_isReady hready] at h
    exact absurd rfl h
  | false =>
    rw [← Bool.not_eq_true, (installs hready).isReady_iff]
    exact h

theorem isSingle_outcome (h : s.IsSingle) : (c.outcome s).2.IsSingle := by
  cases hready : s.isReady with
  | true => rwa [outcome_of_isReady hready]
  | false => exact (installs hready).isSingle

end SetupCall

/-! ## Sequences of calls -/

namespace Sinks

open SetupCall

variable {s : Sinks}

/-- The sinks after calls, one after the other. -/
def after (calls : List SetupCall) (s : Sinks) : Sinks :=
  calls.foldl (fun s c => (c.outcome s).2) s

/-- How calls end, one after the other. -/
def faults : List SetupCall → Sinks → List (Option SinkFault)
  | [], _ => []
  | c :: rest, s => (c.outcome s).1 :: faults rest (c.outcome s).2

theorem after_append (before later : List SetupCall) (s : Sinks) :
    after (before ++ later) s = after later (after before s) :=
  List.foldl_append

/-- No call changes sinks that are set up. -/
theorem after_of_isReady (h : s.isReady = true) (calls : List SetupCall) : after calls s = s := by
  induction calls with
  | nil => rfl
  | cons c rest ih =>
    have hsame : (c.outcome s).2 = s := by rw [outcome_of_isReady h]
    rw [after, List.foldl_cons, hsame]
    exact ih

/-- Where all calls fail, the sinks are not set up. -/
theorem isReady_after_of_faults {calls : List SetupCall} (hready : s.isReady = false)
    (h : none ∉ faults calls s) : (after calls s).isReady = false := by
  induction calls generalizing s with
  | nil => exact hready
  | cons c rest ih =>
    rw [faults, List.mem_cons, not_or] at h
    exact ih (isReady_of_fault (Ne.symm h.1)) h.2

theorem isSingle_after (h : s.IsSingle) (calls : List SetupCall) : (after calls s).IsSingle := by
  induction calls generalizing s with
  | nil => exact h
  | cons c rest ih => exact ih (isSingle_outcome h)

/-- After any calls there is at most one sink for the console and at most one for a file.  The first
call that does not fail leaves exactly one for the console, of the level that it wishes for, and no
call after it changes any sink.  A call after one that fails does what it would do as the first. -/
theorem setups_settle (calls : List SetupCall) :
    (after calls {}).IsSingle ∧
      (∀ before c later, calls = before ++ c :: later → none ∉ faults before {} →
        (c.outcome (after before {})).1 = none →
          after calls {} = after (before ++ [c]) {} ∧
            ∃ level, c.level? = some level ∧
              (after calls {}).consoles = [{ target := .console, level }]) ∧
      ∀ before c, calls = before ++ [c] → (c.outcome (after before {})).1 ≠ none →
        ∀ next : SetupCall, next.outcome (after calls {}) = next.outcome {} := by
  have hlast (before : List SetupCall) (c : SetupCall) :
      after (before ++ [c]) {} = (c.outcome (after before {})).2 := after_append before [c] {}
  refine ⟨isSingle_after ⟨by decide, by decide⟩ calls, ?_, ?_⟩
  · rintro before c later rfl hbefore hc
    have hends := installs (c := c) (isReady_after_of_faults rfl hbefore)
    have hready : (after (before ++ [c]) {}).isReady = true := by
      rw [hlast]
      exact hends.isReady_iff.2 hc
    have hsame : after (before ++ c :: later) {} = after (before ++ [c]) {} := by
      rw [← List.singleton_append, ← List.append_assoc, after_append]
      exact after_of_isReady hready later
    obtain ⟨level, hlevel⟩ := hends.exists_level hc
    refine ⟨hsame, level, hlevel, ?_⟩
    rw [hsame, hlast, hends.consoles_eq, hlevel]
    rfl
  · rintro before c rfl hc next
    apply outcome_of_not_isReady
    rw [hlast]
    exact isReady_of_fault hc

/-- A call of a level that is unknown. -/
def loudSetup : SetupCall := ⟨fun _ => true, [], { level := some "loud" }⟩

/-- A call with a directory that cannot be made. -/
def unmadeSetup : SetupCall := ⟨fun _ => false, [], { directory := some "/logs" }⟩

/-- A call whose level is that of its environment. -/
def sampleSetup : SetupCall :=
  ⟨fun _ => true, [(levelVariable, "ERROR")], { directory := some "/logs" }⟩

/-- After two calls that fail one settles the sinks, and the next one is too late. -/
theorem setups_settle_sample :
    (unmadeSetup.outcome (after [loudSetup] {})).1 ≠ none ∧
    (∀ next : SetupCall, next.outcome (after [loudSetup, unmadeSetup] {}) = next.outcome {}) ∧
    none ∉ faults [loudSetup, unmadeSetup] {} ∧
    (sampleSetup.outcome (after [loudSetup, unmadeSetup] {})).1 = none ∧
    ∀ late : SetupCall, after [loudSetup, unmadeSetup, sampleSetup, late] {} =
      { installed := [{ target := .console, level := .error },
          { target := .file (.ofText "/logs"), level := .debug }], isReady := true } := by
  have hfails : none ∉ faults [loudSetup, unmadeSetup] {} := by decide +kernel
  have hfailed : (unmadeSetup.outcome (after [loudSetup] {})).1 ≠ none := by decide +kernel
  have hends : (sampleSetup.outcome (after [loudSetup, unmadeSetup] {})).1 = none := by
    decide +kernel
  refine ⟨hfailed, (setups_settle [loudSetup, unmadeSetup]).2.2 [loudSetup] unmadeSetup rfl hfailed,
    hfails, hends, fun late => ?_⟩
  have hsettled := (setups_settle [loudSetup, unmadeSetup, sampleSetup, late]).2.1
    [loudSetup, unmadeSetup] sampleSetup [late] rfl hfails hends
  rw [hsettled.1]
  decide +kernel

end Sinks

end InlineReview
