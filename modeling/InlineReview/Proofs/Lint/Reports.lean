import InlineReview.Lint.Report
import InlineReview.Proofs.Json.Showing
import Mathlib.Data.List.Basic

/-!
# What a report holds

The results of a report are those of its entries, one by one: an entry that gives a path has a
result, and any other has a warning that shows it.  All of it can be read unless the messages of
some entry with a path are no array of objects, or an entry without a path cannot be shown.

* `Noting.Tells` — a result and the entries that are written with it.
* `LintResult.resultIn?`, `LintResult.warningIn?` — what an entry of a report stands for.
* `LintResult.IsRead`, `LintResult.isRead_of_readL` — the entries that can be read.
* `LintResult.tells_ofEntries` — the results of entries, and the warnings.
* `LintResult.tells_ofEntries_stop` — where reading entries stops.
-/

namespace InlineReview

/-! ## Computations that tell -/

namespace Noting

variable {ε δ α β : Type}

/-- Does a computation come to a result and write entries, whatever has been written before? -/
def Tells (x : Noting ε α) (r : Except ε α) (es : List Entry) : Prop :=
  ∀ before, x.run.run before = (r, before ++ es)

theorem Tells.outcome_eq {x : Noting ε α} {r : Except ε α} {es : List Entry} (h : x.Tells r es) :
    x.outcome = (r, es) := h []

theorem tells_pure (a : α) : (pure a : Noting ε α).Tells (.ok a) [] := fun before => by
  rw [List.append_nil]
  rfl

theorem tells_note (level : Level) (message : String) :
    (note level message : Noting ε Unit).Tells (.ok ()) [{ level, message, context := [] }] :=
  fun _ => rfl

theorem tells_ofExcept (wrap : δ → ε) (x : Except δ α) :
    (ofExcept wrap x).Tells (x.mapError wrap) [] := fun before => by
  rw [List.append_nil]
  cases x <;> rfl

theorem Tells.bind {x : Noting ε α} {f : α → Noting ε β} {a : α} {r : Except ε β}
    {es es' : List Entry} (hx : x.Tells (.ok a) es) (hf : (f a).Tells r es') :
    (x >>= f).Tells r (es ++ es') := fun before => by
  rw [ExceptT.run_bind, StateT.run_bind, hx before, ← List.append_assoc]
  exact hf (before ++ es)

theorem Tells.bind_error {x : Noting ε α} {e : ε} {es : List Entry}
    (hx : x.Tells (.error e) es) (f : α → Noting ε β) : (x >>= f).Tells (.error e) es :=
  fun before => by
    rw [ExceptT.run_bind, StateT.run_bind, hx before]
    rfl

theorem Tells.map {x : Noting ε α} {r : Except ε α} {es : List Entry} (hx : x.Tells r es)
    (f : α → β) : (x >>= fun a => pure (f a)).Tells (r.map f) es := by
  cases r with
  | error e => exact hx.bind_error _
  | ok a =>
    rw [← List.append_nil es]
    exact hx.bind (tells_pure (f a))

end Noting

/-! ## Entries -/

theorem exists_first_not {α : Type} {P : α → Prop} {xs : List α} (h : ¬ ∀ x ∈ xs, P x) :
    ∃ front x rest, xs = front ++ x :: rest ∧ (∀ y ∈ front, P y) ∧ ¬ P x := by
  induction xs with
  | nil => simp at h
  | cons y xs ih =>
    by_cases hy : P y
    · obtain ⟨front, x, rest, rfl, hfront, hx⟩ :=
        ih fun hall => h (List.forall_mem_cons.2 ⟨hy, hall⟩)
      exact ⟨y :: front, x, rest, rfl, List.forall_mem_cons.2 ⟨hy, hfront⟩, hx⟩
    · exact ⟨[], y, xs, rfl, by simp, hy⟩

namespace LintResult

variable {file entry : Json} {entries messages : List Json}

/-- The finding of a message, none if the message is about no line. -/
def findingIn? (file message : Json) : Option Finding :=
  (LineRef.ofJson? ((message.get? "line").getD .null)).map fun line =>
    let rule := (message.get? "ruleId").getD .null
    { file
      line
      message := (message.get? "message").getD (.str "")
      rule := if rule.isGiven then rule else .null }

/-- Are values objects? -/
def AreObjects (messages : List Json) : Prop := ∀ m ∈ messages, ∃ members, m = .obj members

/-- The messages of an entry, if it has an array of them. -/
def messagesIn (entry : Json) : List Json := ((entry.get? "messages").bind Json.arr?).getD []

/-- Can the messages of an entry be read?  None are given, or they are an array of objects. -/
def HasMessages (entry : Json) : Prop :=
  ((entry.get? "messages").getD .null).isGiven = true →
    entry.get? "messages" = some (.arr (messagesIn entry)) ∧ AreObjects (messagesIn entry)

/-- The result of an entry, if it gives a path. -/
def resultIn? (entry : Json) : Option LintResult :=
  (fileOf? entry).map fun file =>
    { file, findings := (messagesIn entry).filterMap (findingIn? file) }

/-- The warning about an entry that gives no path, with the text that shows it. -/
def warning (shown : String) : Entry where
  level := .warning
  message := s!"Skipping ESLint report entry without filePath: {shown}"
  context := []

/-- The warning about an entry, if it gives no path and can be shown. -/
def warningIn? (entry : Json) : Option Entry :=
  match fileOf? entry with
  | none => entry.shown.toOption.map warning
  | some _ => none

/-- Can an entry be read?  Its messages are needed if it gives a path, and otherwise the text that
shows it. -/
structure IsRead (entry : Json) : Prop where
  shown : fileOf? entry = none → entry.Fits Json.nestingLimit
  messages : (fileOf? entry).isSome = true → HasMessages entry

theorem findingOf?_obj (file : Json) (members : List (String × Json)) :
    findingOf? file (.obj members) = .ok (findingIn? file (.obj members)) := by
  have hfield : Json.field "line" (.obj members) =
      .ok ((Json.get? "line" (.obj members)).getD .null) := rfl
  unfold findingOf? findingIn?
  rw [hfield]
  cases hline : LineRef.ofJson? ((Json.get? "line" (.obj members)).getD .null) with
  | none => simp only [bind, Except.bind, hline]; rfl
  | some line => simp only [bind, Except.bind, hline]; rfl

/-- The findings of objects are read one by one. -/
theorem findingsOf_of_areObjects (h : AreObjects messages) :
    findingsOf file messages = .ok (messages.filterMap (findingIn? file)) := by
  have hfound : messages.mapM (findingOf? file) = .ok (messages.map (findingIn? file)) := by
    induction messages with
    | nil => rfl
    | cons m rest ih =>
      obtain ⟨members, rfl⟩ := h m (by simp)
      rw [List.mapM_cons, findingOf?_obj, ih fun m hm => h m (by simp [hm])]
      rfl
  rw [findingsOf, hfound]
  simp [Except.map, List.filterMap_map]

/-- Among values that are not all objects there is one of which no finding is read. -/
theorem exists_findingsOf_eq_error (file : Json) (h : ¬ AreObjects messages) :
    ∃ fault, findingsOf file messages = .error fault := by
  have hfailed : ∃ fault, messages.mapM (findingOf? file) = .error fault := by
    induction messages with
    | nil => exact absurd (by simp [AreObjects]) h
    | cons m rest ih =>
      rw [List.mapM_cons]
      cases hm : findingOf? file m with
      | error fault => exact ⟨fault, rfl⟩
      | ok found =>
        have hobject : ∃ members, m = .obj members := by
          cases m with
          | obj members => exact ⟨members, rfl⟩
          | _ => cases hm
        obtain ⟨fault, hrest⟩ := ih fun hrest => h (by
          rw [AreObjects, List.forall_mem_cons]
          exact ⟨hobject, hrest⟩)
        exact ⟨fault, by rw [hrest]; rfl⟩
  obtain ⟨fault, hfailed⟩ := hfailed
  exact ⟨fault, by rw [findingsOf, hfailed]; rfl⟩

/-- The messages that an entry gives are an array of objects exactly if all findings are read. -/
theorem findings_of_hasMessages (file : Json) (h : HasMessages entry) :
    (messagesOf entry >>= findingsOf file) =
      .ok ((messagesIn entry).filterMap (findingIn? file)) := by
  by_cases hgiven : ((entry.get? "messages").getD .null).isGiven = true
  · obtain ⟨hmessages, hobjects⟩ := h hgiven
    have hread : messagesOf entry = .ok (messagesIn entry) := by
      rw [messagesOf, if_pos hgiven, hmessages]
      rfl
    rw [hread]
    exact findingsOf_of_areObjects hobjects
  · have hnone : messagesIn entry = [] := by
      unfold messagesIn
      cases hmessages : entry.get? "messages" with
      | none => rfl
      | some v =>
        rw [hmessages] at hgiven
        cases v with
        | arr elements => simpa [Json.isGiven, Json.arr?] using hgiven
        | _ => rfl
    rw [messagesOf, if_neg hgiven, hnone]
    rfl

/-- What can be walked through and is no array yields texts, and at least one if it is given. -/
theorem not_areObjects_of_items {v : Json} (hgiven : v.isGiven = true)
    (harray : v.arr? = none) (hitems : v.items = .ok messages) : ¬ AreObjects messages := by
  have htext : ∀ {s rest}, ¬ AreObjects (Json.str s :: rest) := fun h => by
    obtain ⟨members, hstr⟩ := h _ (List.mem_cons_self ..)
    cases hstr
  cases v with
  | arr elements => cases harray
  | obj members =>
    obtain rfl := Except.ok.inj hitems
    cases members with
    | nil => cases hgiven
    | cons m rest => exact htext
  | str s =>
    obtain rfl := Except.ok.inj hitems
    cases hs : s.toList with
    | nil => simp [Json.isGiven, String.toList_eq_nil_iff.1 hs] at hgiven
    | cons c r => exact htext
  | _ => cases hitems

/-- Otherwise there is one that is not. -/
theorem exists_fault_of_not_hasMessages (file : Json) (h : ¬ HasMessages entry) :
    ∃ fault, (messagesOf entry >>= findingsOf file) = .error fault := by
  rw [HasMessages, Classical.not_imp] at h
  obtain ⟨hgiven, hunread⟩ := h
  rw [messagesOf, if_pos hgiven]
  cases hmessages : entry.get? "messages" with
  | none =>
    rw [hmessages] at hgiven
    cases hgiven
  | some v =>
    rw [hmessages, Option.getD_some] at hgiven
    rw [Option.getD_some]
    cases hitems : v.items with
    | error fault => exact ⟨fault, rfl⟩
    | ok messages =>
      refine exists_findingsOf_eq_error file ?_
      cases harray : v.arr? with
      | none => exact not_areObjects_of_items hgiven harray hitems
      | some elements =>
        cases v with
        | arr elements =>
          obtain rfl := Except.ok.inj hitems
          simpa [messagesIn, hmessages, Json.arr?] using hunread
        | _ => cases harray

/-! ## Reports -/

theorem resultIn?_of_none (h : fileOf? entry = none) : resultIn? entry = none := by
  rw [resultIn?, h]
  rfl

theorem resultIn?_of_some (h : fileOf? entry = some file) : resultIn? entry = some
    { file, findings := (messagesIn entry).filterMap (findingIn? file) } := by
  rw [resultIn?, h]
  rfl

theorem warningIn?_of_none {shown : String} (h : fileOf? entry = none)
    (hshown : entry.shown = .ok shown) : warningIn? entry = some (warning shown) := by
  rw [warningIn?, h, hshown]
  rfl

theorem warningIn?_of_some (h : fileOf? entry = some file) : warningIn? entry = none := by
  rw [warningIn?, h]

/-- The entries of a document can be read if their messages can. -/
theorem isRead_of_readL {s : List Char} (h : Json.readL s = .ok (.arr entries))
    (hmessages : ∀ entry ∈ entries, (fileOf? entry).isSome = true → HasMessages entry) :
    ∀ entry ∈ entries, IsRead entry :=
  fun entry hentry => ⟨fun _ => Json.fits_of_mem_readL h entry hentry, hmessages entry hentry⟩

/-- What an entry that can be read adds to what is told of those behind it. -/
theorem tells_ofEntries_cons {rest : List Json} {r : Except ReportFault (List LintResult)}
    {es : List Entry} (h : IsRead entry) (hrest : (ofEntries rest).Tells r es) :
    (ofEntries (entry :: rest)).Tells (r.map ((resultIn? entry).toList ++ ·))
      ((warningIn? entry).toList ++ es) := by
  rw [ofEntries]
  cases hfile : fileOf? entry with
  | none =>
    obtain ⟨shown, hshown⟩ := Json.exists_shown_iff.2 (h.shown hfile)
    rw [resultIn?_of_none hfile, warningIn?_of_none hfile hshown]
    have hsame : r.map ((none : Option LintResult).toList ++ ·) = r := by cases r <;> rfl
    simp only [hshown, hsame]
    exact (Noting.tells_ofExcept ReportFault.unshown (.ok shown)).bind
      ((Noting.tells_note _ _).bind hrest)
  | some file =>
    have hread := findings_of_hasMessages file (h.messages (by rw [hfile]; rfl))
    rw [resultIn?_of_some hfile, warningIn?_of_some hfile]
    simp only [hread]
    exact (Noting.tells_ofExcept ReportFault.shape (.ok _)).bind (hrest.map _)

theorem tells_ofEntries_append {rest : List Json} {r : Except ReportFault (List LintResult)}
    {es : List Entry} (h : ∀ entry ∈ entries, IsRead entry) (hrest : (ofEntries rest).Tells r es) :
    (ofEntries (entries ++ rest)).Tells (r.map (entries.filterMap resultIn? ++ ·))
      (entries.filterMap warningIn? ++ es) := by
  induction entries with
  | nil =>
    have hsame : r.map (([] : List LintResult) ++ ·) = r := by cases r <;> rfl
    rw [List.filterMap_nil, hsame]
    exact hrest
  | cons entry entries ih =>
    obtain ⟨hentry, hentries⟩ := List.forall_mem_cons.1 h
    have hcons := tells_ofEntries_cons hentry (ih hentries)
    have hresults : (r.map (entries.filterMap resultIn? ++ ·)).map
        ((resultIn? entry).toList ++ ·) =
          r.map ((entry :: entries).filterMap resultIn? ++ ·) := by
      cases r with
      | error e => rfl
      | ok results => cases hresult : resultIn? entry <;> simp [Except.map, hresult]
    have hwarnings : (warningIn? entry).toList ++ (entries.filterMap warningIn? ++ es) =
        (entry :: entries).filterMap warningIn? ++ es := by
      cases hwarning : warningIn? entry <;> simp [hwarning]
    rwa [hresults, hwarnings] at hcons

/-- Entries that can all be read have their results, and a warning is written about each that gives
no path. -/
theorem tells_ofEntries (h : ∀ entry ∈ entries, IsRead entry) :
    (ofEntries entries).Tells (.ok (entries.filterMap resultIn?))
      (entries.filterMap warningIn?) := by
  have hnothing : (ofEntries []).Tells (.ok []) [] := Noting.tells_pure []
  simpa [Except.map] using tells_ofEntries_append h hnothing

/-- Reading stops at an entry that cannot be read: at messages that are no array of objects with a
fault of shape, and at an entry without a path that cannot be shown with the fault of that. -/
theorem tells_ofEntries_unread (rest : List Json) (h : ¬ IsRead entry) :
    (∃ fault, (fileOf? entry).isSome = true ∧
        (ofEntries (entry :: rest)).Tells (.error (.shape fault)) []) ∨
      ∃ fault, entry.shown = .error fault ∧
        (ofEntries (entry :: rest)).Tells (.error (.unshown fault)) [] := by
  rw [ofEntries]
  cases hfile : fileOf? entry with
  | none =>
    have hlimit : ¬ entry.Fits Json.nestingLimit := fun hfits =>
      h ⟨fun _ => hfits, fun hsome => by simp [hfile] at hsome⟩
    cases hshown : entry.shown with
    | ok shown => exact absurd (Json.exists_shown_iff.1 ⟨shown, hshown⟩) hlimit
    | error fault =>
      exact .inr ⟨fault, rfl,
        (Noting.tells_ofExcept ReportFault.unshown (.error fault)).bind_error _⟩
  | some file =>
    have hmessages : ¬ HasMessages entry := fun hmessages =>
      h ⟨fun hnone => by simp [hfile] at hnone, fun _ => hmessages⟩
    obtain ⟨fault, hread⟩ := exists_fault_of_not_hasMessages file hmessages
    refine .inl ⟨fault, rfl, ?_⟩
    simp only [hread]
    exact (Noting.tells_ofExcept ReportFault.shape (.error fault)).bind_error _

/-- Before the entry at which reading stops, warnings are written. -/
theorem tells_ofEntries_stop {front rest : List Json} {fault : ReportFault}
    (hfront : ∀ entry ∈ front, IsRead entry)
    (hstop : (ofEntries (entry :: rest)).Tells (.error fault) []) :
    (ofEntries (front ++ entry :: rest)).Tells (.error fault) (front.filterMap warningIn?) := by
  simpa [Except.map] using tells_ofEntries_append hfront hstop

theorem exists_stop (h : ¬ ∀ entry ∈ entries, IsRead entry) :
    ∃ fault es, (ofEntries entries).Tells (.error fault) es := by
  obtain ⟨front, entry, rest, rfl, hfront, hentry⟩ := exists_first_not h
  rcases tells_ofEntries_unread rest hentry with ⟨fault, -, hstop⟩ | ⟨fault, -, hstop⟩
  · exact ⟨_, _, tells_ofEntries_stop hfront hstop⟩
  · exact ⟨_, _, tells_ofEntries_stop hfront hstop⟩

/-- With messages that are no array of objects, a fault of shape is told, if every entry can be
shown. -/
theorem tells_ofEntries_of_unread (hfits : ∀ entry ∈ entries, entry.Fits Json.nestingLimit)
    (h : ∃ entry ∈ entries, (fileOf? entry).isSome = true ∧ ¬ HasMessages entry) :
    ∃ fault es, (ofEntries entries).Tells (.error (.shape fault)) es := by
  obtain ⟨e, he, hfile, hmessages⟩ := h
  have hunread : ¬ ∀ entry ∈ entries, IsRead entry := fun hall =>
    hmessages ((hall e he).messages hfile)
  obtain ⟨front, entry, rest, rfl, hfront, hentry⟩ := exists_first_not hunread
  rcases tells_ofEntries_unread rest hentry with ⟨fault, -, hstop⟩ | ⟨fault, hshown, -⟩
  · exact ⟨fault, _, tells_ofEntries_stop hfront hstop⟩
  · obtain ⟨s, hs⟩ := Json.exists_shown_iff.2 (hfits entry (by simp))
    cases hs.symm.trans hshown

end LintResult

end InlineReview
