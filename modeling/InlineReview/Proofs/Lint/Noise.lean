import InlineReview.Proofs.Lint.Reports

/-!
# Reports with noise in them

What the linter says about files is read back from a report that shows it, whatever else stands
between: messages about no line, and entries that give no path.  Of the former nothing is told, and
of the latter each has its warning, which shows it.  Reading stops at the first of the latter that
cannot be shown; there is none in a report that was read as a document.

* `Saying`, `FileReport` — what the linter says about a line and about a file.
* `Woven` — values that show something one by one, with others in between.
* `LintResult.outcome_ofReport_woven` — the results of a report, and the warnings.
* `LintResult.outcome_ofReport_longNumber` — an entry that cannot be shown.
-/

namespace InlineReview

/-! ## Values with others in between -/

section

variable {α β : Type} {Shows : α → Json → Prop} {IsAside : Json → Prop} {as : List α}
  {asides vs : List Json}

/-- The values `vs` show the elements of `as` in order, with `asides` anywhere in between. -/
inductive Woven (Shows : α → Json → Prop) (IsAside : Json → Prop) :
    (as : List α) → (asides vs : List Json) → Prop
  | nil : Woven Shows IsAside [] [] []
  | shown {a : α} {v : Json} {as : List α} {asides vs : List Json} (hv : Shows a v)
      (h : Woven Shows IsAside as asides vs) : Woven Shows IsAside (a :: as) asides (v :: vs)
  | aside {v : Json} {as : List α} {asides vs : List Json} (hv : IsAside v)
      (h : Woven Shows IsAside as asides vs) : Woven Shows IsAside as (v :: asides) (v :: vs)

/-- What is drawn from the values that show something, and from no other. -/
theorem Woven.filterMap_shown {f : Json → Option β} {g : α → β}
    (h : Woven Shows IsAside as asides vs) (hshown : ∀ a v, Shows a v → f v = some (g a))
    (haside : ∀ v, IsAside v → f v = none) : vs.filterMap f = as.map g := by
  induction h with
  | nil => rfl
  | shown hv _ ih => rw [List.filterMap_cons_some (hshown _ _ hv), ih, List.map_cons]
  | aside hv _ ih => rw [List.filterMap_cons_none (haside _ hv), ih]

/-- What is drawn from the values in between, and from no other. -/
theorem Woven.filterMap_asides {f g : Json → Option β}
    (h : Woven Shows IsAside as asides vs) (hshown : ∀ a v, Shows a v → f v = none)
    (haside : ∀ v, IsAside v → f v = g v) : vs.filterMap f = asides.filterMap g := by
  induction h with
  | nil => rfl
  | shown hv _ ih => rw [List.filterMap_cons_none (hshown _ _ hv), ih]
  | aside hv _ ih => rw [List.filterMap_cons, List.filterMap_cons, haside _ hv, ih]

theorem Woven.forall_asides (h : Woven Shows IsAside as asides vs) : ∀ v ∈ asides, IsAside v := by
  induction h with
  | nil => simp
  | shown _ _ ih => exact ih
  | aside hv _ ih => exact List.forall_mem_cons.2 ⟨hv, ih⟩

theorem Woven.forall_mem {P : Json → Prop} (h : Woven Shows IsAside as asides vs)
    (hshown : ∀ a v, Shows a v → P v) (haside : ∀ v, IsAside v → P v) : ∀ v ∈ vs, P v := by
  induction h with
  | nil => simp
  | shown hv _ ih => exact List.forall_mem_cons.2 ⟨hshown _ _ hv, ih⟩
  | aside hv _ ih => exact List.forall_mem_cons.2 ⟨haside _ hv, ih⟩

theorem Woven.asides_subset (h : Woven Shows IsAside as asides vs) : ∀ v ∈ asides, v ∈ vs := by
  induction h with
  | nil => simp
  | shown _ _ ih => exact fun v hv => List.mem_cons_of_mem _ (ih v hv)
  | aside _ _ ih =>
    intro v hv
    rcases List.mem_cons.1 hv with rfl | hv
    · exact List.mem_cons_self ..
    · exact List.mem_cons_of_mem _ (ih v hv)

/-- Before one of the values in between, others show something, with those before it in between. -/
theorem Woven.split {before after : List Json} {v : Json}
    (h : Woven Shows IsAside as (before ++ v :: after) vs) :
    ∃ front rest shown, vs = front ++ v :: rest ∧ Woven Shows IsAside shown before front := by
  generalize hall : before ++ v :: after = asides at h
  induction h generalizing before with
  | nil => simp at hall
  | shown hv _ ih =>
    obtain ⟨front, rest, shown, rfl, hfront⟩ := ih hall
    exact ⟨_ :: front, rest, _ :: shown, rfl, .shown hv hfront⟩
  | aside hv _ ih =>
    cases before with
    | nil =>
      obtain ⟨rfl, rfl⟩ := List.cons.inj hall
      exact ⟨[], _, [], rfl, .nil⟩
    | cons u before =>
      obtain ⟨rfl, hbefore⟩ := List.cons.inj hall
      obtain ⟨front, rest, shown, rfl, hfront⟩ := ih hbefore
      exact ⟨u :: front, rest, shown, rfl, .aside hv hfront⟩

/-- Values that show something, with nothing in between. -/
theorem woven_map {show_ : α → Json} (hshown : ∀ a, Shows a (show_ a)) (as : List α) :
    Woven Shows IsAside as [] (as.map show_) := by
  induction as with
  | nil => exact .nil
  | cons a as ih => exact .shown (hshown a) ih

end

/-! ## What the linter says -/

/-- What the linter says about a line, perhaps by a rule. -/
structure Saying where
  line : Nat
  message : String
  rule : Option String
  line_pos : 1 ≤ line
  rule_ne : rule ≠ some ""

/-- What the linter says about a file. -/
structure FileReport where
  path : String
  sayings : List Saying
  path_ne : path ≠ ""

namespace Saying

/-- The finding that is said. -/
def finding (path : String) (s : Saying) : Finding where
  file := .str path
  line := .number s.line
  message := .str s.message
  rule := Json.ofText? s.rule

/-- Does a message show what is said?  It may hold more, and may leave out a rule that is null. -/
structure IsShownBy (s : Saying) (message : Json) : Prop where
  isObject : ∃ members, message = .obj members
  line_eq : message.get? "line" = some (.int s.line)
  message_eq : message.get? "message" = some (.str s.message)
  rule_eq : (message.get? "ruleId").getD .null = Json.ofText? s.rule

/-- The message that holds nothing else. -/
def toJson (s : Saying) : Json :=
  .obj [("ruleId", Json.ofText? s.rule), ("line", .int s.line), ("message", .str s.message)]

theorem isShownBy_toJson (s : Saying) : s.IsShownBy s.toJson where
  isObject := ⟨_, rfl⟩
  line_eq := rfl
  message_eq := rfl
  rule_eq := rfl

end Saying

/-- Is a value no line?  Of numbers a whole one from one on is a line, and of other values true. -/
def isNoLine : Json → Bool
  | .int n => n < 1
  | .bool b => ! b
  | _ => true

/-- Is a message about no line? -/
structure IsAside (message : Json) : Prop where
  isObject : ∃ members, message = .obj members
  isNoLine : isNoLine ((message.get? "line").getD .null) = true

/-- Does an entry give no path?  It is no object, has no path, or has one that is null or empty. -/
inductive IsUnnamed : Json → Prop
  | notObject {v : Json} (h : ∀ members, v ≠ .obj members) : IsUnnamed v
  | absent {v : Json} (h : v.get? "filePath" = none) : IsUnnamed v
  | empty {v file : Json} (h : v.get? "filePath" = some file) (hfile : file.isGiven = false) :
      IsUnnamed v

namespace FileReport

/-- The result that is said. -/
def result (r : FileReport) : LintResult where
  file := .str r.path
  findings := r.sayings.map (·.finding r.path)

/-- Does an entry show what is said about a file?  Its messages show what is said about the lines,
with others in between. -/
structure IsShownBy (r : FileReport) (entry : Json) : Prop where
  file_eq : entry.get? "filePath" = some (.str r.path)
  messages_eq : ∃ asides messages, entry.get? "messages" = some (.arr messages) ∧
    Woven Saying.IsShownBy IsAside r.sayings asides messages

/-- The entry that holds nothing else. -/
def toJson (r : FileReport) : Json :=
  .obj [("filePath", .str r.path), ("messages", .arr (r.sayings.map Saying.toJson))]

theorem isShownBy_toJson (r : FileReport) : r.IsShownBy r.toJson where
  file_eq := rfl
  messages_eq := ⟨[], _, rfl, woven_map Saying.isShownBy_toJson r.sayings⟩

end FileReport

/-! ## Reading it back -/

namespace LintResult

/-- What is said about a line is found. -/
theorem findingIn?_of_isShownBy {s : Saying} {message : Json} (path : String)
    (h : s.IsShownBy message) : findingIn? (.str path) message = some (s.finding path) := by
  have hline : LineRef.ofJson? (.int s.line) = some (.number s.line) := by
    have := s.line_pos
    simp only [LineRef.ofJson?]
    rw [if_pos (by omega), Int.toNat_natCast]
  have hrule : (if (Json.ofText? s.rule).isGiven then Json.ofText? s.rule else .null) =
      Json.ofText? s.rule := by
    cases hr : s.rule with
    | none => rfl
    | some rule =>
      have hne : rule ≠ "" := fun hempty => s.rule_ne (by rw [hr, hempty])
      rw [if_pos (by simp [Json.ofText?, Json.isGiven, hne])]
  simp only [findingIn?, h.line_eq, h.message_eq, h.rule_eq, Option.getD_some, hline, hrule,
    Option.map_some]
  rfl

/-- A message about no line has no finding. -/
theorem findingIn?_of_isAside {message : Json} (file : Json) (h : IsAside message) :
    findingIn? file message = none := by
  have hline : LineRef.ofJson? ((message.get? "line").getD .null) = none := by
    have hno := h.isNoLine
    generalize (message.get? "line").getD .null = v at hno
    cases v with
    | int n =>
      simp only [isNoLine, decide_eq_true_eq] at hno
      rw [LineRef.ofJson?, if_neg (by omega)]
    | bool b => cases b with
      | false => rfl
      | true => cases hno
    | _ => rfl
  rw [findingIn?, hline]
  rfl

theorem fileOf?_of_isUnnamed {entry : Json} (h : IsUnnamed entry) : fileOf? entry = none := by
  cases h with
  | notObject h =>
    have hnone : entry.get? "filePath" = none := by
      cases entry with
      | obj members => exact absurd rfl (h members)
      | _ => rfl
    rw [fileOf?, hnone]
    rfl
  | absent h => rw [fileOf?, h]; rfl
  | empty h hfile => rw [fileOf?, h, Option.bind_some, hfile]; rfl

theorem fileOf?_of_isShownBy {r : FileReport} {entry : Json} (h : r.IsShownBy entry) :
    fileOf? entry = some (.str r.path) := by
  rw [fileOf?, h.file_eq, Option.bind_some, if_pos (by simp [Json.isGiven, r.path_ne])]

/-- What is said about a file is the result of the entry that shows it. -/
theorem resultIn?_of_isShownBy {r : FileReport} {entry : Json} (h : r.IsShownBy entry) :
    resultIn? entry = some r.result := by
  obtain ⟨asides, messages, hmessages, hwoven⟩ := h.messages_eq
  have hin : messagesIn entry = messages := by rw [messagesIn, hmessages]; rfl
  rw [resultIn?_of_some (fileOf?_of_isShownBy h), hin,
    hwoven.filterMap_shown (fun _ _ => findingIn?_of_isShownBy r.path)
      (fun _ => findingIn?_of_isAside _)]
  rfl

theorem hasMessages_of_isShownBy {r : FileReport} {entry : Json} (h : r.IsShownBy entry) :
    HasMessages entry := by
  intro _
  obtain ⟨asides, messages, hmessages, hwoven⟩ := h.messages_eq
  have hin : messagesIn entry = messages := by rw [messagesIn, hmessages]; rfl
  rw [hin]
  exact ⟨hmessages, hwoven.forall_mem (fun _ _ h => h.isObject) fun _ h => h.isObject⟩

/-- Does an entry of the journal warn about an entry of the report?  It shows it. -/
def Warns (entry : Json) (e : Entry) : Prop := ∃ shown, entry.shown = .ok shown ∧ e = warning shown

theorem warns_of_fits {unnamed : List Json} (hfits : ∀ v ∈ unnamed, v.Fits Json.nestingLimit) :
    List.Forall₂ Warns unnamed (unnamed.filterMap fun v => v.shown.toOption.map warning) := by
  induction unnamed with
  | nil => exact .nil
  | cons v unnamed ih =>
    obtain ⟨hv, hfits⟩ := List.forall_mem_cons.1 hfits
    obtain ⟨shown, hshown⟩ := Json.exists_shown_iff.2 hv
    rw [List.filterMap_cons, hshown]
    exact .cons ⟨shown, hshown, rfl⟩ (ih hfits)

section Reading

variable {reports : List FileReport} {unnamed entries : List Json}

theorem isRead_of_woven (h : Woven FileReport.IsShownBy IsUnnamed reports unnamed entries)
    (hfits : ∀ v ∈ unnamed, v.Fits Json.nestingLimit) : ∀ entry ∈ entries, IsRead entry := by
  induction h with
  | nil => simp
  | shown hv _ ih =>
    refine List.forall_mem_cons.2 ⟨⟨fun hnone => ?_, fun _ => hasMessages_of_isShownBy hv⟩, ih hfits⟩
    cases hnone.symm.trans (fileOf?_of_isShownBy hv)
  | aside hv _ ih =>
    obtain ⟨hfirst, hfits⟩ := List.forall_mem_cons.1 hfits
    refine List.forall_mem_cons.2 ⟨⟨fun _ => hfirst, fun hsome => ?_⟩, ih hfits⟩
    rw [fileOf?_of_isUnnamed hv] at hsome
    cases hsome

theorem filterMap_warningIn?_of_woven
    (h : Woven FileReport.IsShownBy IsUnnamed reports unnamed entries) :
    entries.filterMap warningIn? = unnamed.filterMap fun v => v.shown.toOption.map warning := by
  refine h.filterMap_asides (fun _ _ hv => warningIn?_of_some (fileOf?_of_isShownBy hv)) ?_
  intro v hv
  rw [warningIn?, fileOf?_of_isUnnamed hv]

theorem outcome_of_fits (h : Woven FileReport.IsShownBy IsUnnamed reports unnamed entries)
    (hfits : ∀ v ∈ unnamed, v.Fits Json.nestingLimit) :
    ∃ warnings, List.Forall₂ Warns unnamed warnings ∧
      (ofReport (.arr entries)).outcome = (.ok (reports.map FileReport.result), warnings) := by
  have hresults : entries.filterMap resultIn? = reports.map FileReport.result :=
    h.filterMap_shown (fun _ _ => resultIn?_of_isShownBy)
      fun _ hv => resultIn?_of_none (fileOf?_of_isUnnamed hv)
  refine ⟨_, warns_of_fits hfits, ?_⟩
  rw [← filterMap_warningIn?_of_woven h, ← hresults]
  exact (tells_ofEntries (isRead_of_woven h hfits)).outcome_eq

theorem outcome_of_not_fits {before after : List Json} {v : Json}
    (h : Woven FileReport.IsShownBy IsUnnamed reports (before ++ v :: after) entries)
    (hbefore : ∀ u ∈ before, u.Fits Json.nestingLimit) (hv : ¬ v.Fits Json.nestingLimit) :
    ∃ fault warnings, v.shown = .error fault ∧ List.Forall₂ Warns before warnings ∧
      (ofReport (.arr entries)).outcome = (.error (.unshown fault), warnings) := by
  have hunnamed : fileOf? v = none := fileOf?_of_isUnnamed (h.forall_asides v (by simp))
  obtain ⟨front, rest, shown, rfl, hfront⟩ := h.split
  rcases tells_ofEntries_unread rest fun hread => hv (hread.shown hunnamed) with
    ⟨-, hfile, -⟩ | ⟨fault, hfault, hstop⟩
  · rw [hunnamed] at hfile
    cases hfile
  · refine ⟨fault, _, hfault, warns_of_fits hbefore, ?_⟩
    rw [← filterMap_warningIn?_of_woven hfront]
    exact (tells_ofEntries_stop (isRead_of_woven hfront hbefore) hstop).outcome_eq

/-- A report that shows what is said about files, with entries that give no path in between, can be
read exactly if each of the latter keeps to the limits within which a value can be shown.  Then
exactly what is said is read, and each of the other entries has its warning, in order.  Otherwise
reading stops at the first one that passes a limit, after the warnings about those before it.  In a
document all of them keep to the limits. -/
theorem outcome_ofReport_woven
    (h : Woven FileReport.IsShownBy IsUnnamed reports unnamed entries) :
    ((∃ results, (ofReport (.arr entries)).outcome.1 = .ok results) ↔
        ∀ v ∈ unnamed, v.Fits Json.nestingLimit) ∧
      ((∀ v ∈ unnamed, v.Fits Json.nestingLimit) →
        ∃ warnings, List.Forall₂ Warns unnamed warnings ∧
          (ofReport (.arr entries)).outcome = (.ok (reports.map FileReport.result), warnings)) ∧
      (∀ before v after, unnamed = before ++ v :: after →
        (∀ u ∈ before, u.Fits Json.nestingLimit) → ¬ v.Fits Json.nestingLimit →
          ∃ fault warnings, v.shown = .error fault ∧ List.Forall₂ Warns before warnings ∧
            (ofReport (.arr entries)).outcome = (.error (.unshown fault), warnings)) ∧
      ∀ s, Json.readL s = .ok (.arr entries) → ∀ v ∈ unnamed, v.Fits Json.nestingLimit := by
  refine ⟨⟨fun hread => ?_, fun hfits => ?_⟩, outcome_of_fits h, ?_, fun s hs v hv =>
    Json.fits_of_mem_readL hs v (h.asides_subset v hv)⟩
  · by_contra hlimit
    obtain ⟨before, v, after, rfl, hbefore, hv⟩ := exists_first_not hlimit
    obtain ⟨fault, warnings, -, -, houtcome⟩ := outcome_of_not_fits h hbefore hv
    obtain ⟨results, hresults⟩ := hread
    rw [houtcome] at hresults
    cases hresults
  · obtain ⟨warnings, -, houtcome⟩ := outcome_of_fits h hfits
    exact ⟨_, congrArg Prod.fst houtcome⟩
  · rintro before v after rfl
    exact outcome_of_not_fits h

end Reading

/-- What is said about a line of a file. -/
def sampleSaying : Saying where
  line := 3
  message := "m"
  rule := some "r"
  line_pos := by decide
  rule_ne := by decide

/-- What is said about a file, and that nothing is said about another. -/
def sampleReports : List FileReport :=
  [{ path := "/w/a.js", sayings := [sampleSaying], path_ne := by decide },
    { path := "/w/b.js", sayings := [], path_ne := by decide }]

/-- Entries that show it, with a message about no line and with two entries in between. -/
def sampleEntries : List Json :=
  [.int 7, .obj [("filePath", .str "/w/a.js"),
      ("messages", .arr [.obj [("line", .int 0)], sampleSaying.toJson])],
    .obj [("filePath", .null)], .obj [("filePath", .str "/w/b.js"), ("messages", .arr [])]]

/-- It is read back from them, with two warnings. -/
theorem outcome_sampleEntries :
    Woven FileReport.IsShownBy IsUnnamed sampleReports [.int 7, .obj [("filePath", .null)]]
        sampleEntries ∧
      (ofReport (.arr sampleEntries)).outcome = (.ok (sampleReports.map FileReport.result),
        [warning "7", warning "\x7b'filePath': None\x7d"]) := by
  have hmessages : Woven Saying.IsShownBy IsAside [sampleSaying] [.obj [("line", .int 0)]]
      [.obj [("line", .int 0)], sampleSaying.toJson] :=
    .aside ⟨⟨_, rfl⟩, rfl⟩ (.shown sampleSaying.isShownBy_toJson .nil)
  have hwoven : Woven FileReport.IsShownBy IsUnnamed sampleReports
      [.int 7, .obj [("filePath", .null)]] sampleEntries :=
    .aside (.notObject fun _ h => by cases h) <| .shown ⟨rfl, _, _, rfl, hmessages⟩ <|
      .aside (.empty rfl rfl) <| .shown ⟨rfl, [], [], rfl, .nil⟩ .nil
  have hfits : ∀ v ∈ [Json.int 7, .obj [("filePath", .null)]], v.Fits Json.nestingLimit := by
    have hseven : (Json.int 7).Fits Json.nestingLimit :=
      .int (Nat.lt_of_lt_of_le (by decide : 7 < 10 ^ 1) (Nat.pow_le_pow_right (by decide) (by decide)))
    have hnull : (Json.obj [("filePath", .null)]).Fits Json.nestingLimit :=
      .obj (List.forall_mem_singleton.2 .null)
    exact List.forall_mem_cons.2 ⟨hseven, List.forall_mem_singleton.2 hnull⟩
  obtain ⟨-, hread, -⟩ := outcome_ofReport_woven hwoven
  obtain ⟨warnings, hwarns, houtcome⟩ := hread hfits
  refine ⟨hwoven, ?_⟩
  cases hwarns with
  | cons hfirst hrest =>
    cases hrest with
    | cons hsecond hnone =>
      cases hnone
      obtain ⟨s, hs, rfl⟩ := hfirst
      obtain ⟨t, ht, rfl⟩ := hsecond
      obtain rfl : "7" = s := Except.ok.inj (Eq.trans (by decide +kernel) hs)
      obtain rfl : "\x7b'filePath': None\x7d" = t := Except.ok.inj (Eq.trans (by decide +kernel) ht)
      exact houtcome

/-- A number with one digit too many is no object, and instead of a warning about it, there is a
fault. -/
theorem outcome_ofReport_longNumber :
    IsUnnamed (.int (10 ^ Numeral.digitLimit : Nat)) ∧
      (ofReport (.arr [.int (10 ^ Numeral.digitLimit : Nat)])).outcome =
        (.error (.unshown (.numeral .tooLongToWrite)), []) := by
  have hlong : Numeral.digitLimit < (Numeral.digits (10 ^ Numeral.digitLimit)).length := by
    have hlength : (Numeral.digits (10 ^ Numeral.digitLimit)).length ≤ Numeral.digitLimit ↔
        10 ^ Numeral.digitLimit < 10 ^ Numeral.digitLimit :=
      Nat.length_toDigits_le_iff (by decide) (by decide)
    exact Nat.lt_of_not_le fun hle => Nat.lt_irrefl _ (hlength.1 hle)
  have hshown : (Json.int (10 ^ Numeral.digitLimit : Nat)).shown =
      .error (.numeral .tooLongToWrite) := by
    rw [Json.shown, Json.shownL, Numeral.write, Int.natAbs_natCast, if_pos hlong]
    rfl
  have hunnamed : fileOf? (.int (10 ^ Numeral.digitLimit : Nat)) = none := rfl
  refine ⟨.notObject fun _ h => (by cases h), ?_⟩
  rw [ofReport, ofEntries, hunnamed, hshown]
  rfl

end LintResult

end InlineReview
