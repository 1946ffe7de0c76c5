import InlineReview.Proofs.Patch.Numbering
import InlineReview.Proofs.Review.Comments
import InlineReview.Proofs.Review.Pages

/-!
# The changed files that are reviewed

From the entries of the host's list those are kept whose name ends in one of the extensions, in the
order in which they are listed.  Each kept file has the patch of its own entry and the map of that
patch, whatever the other entries hold.  Together with the pages of the list this says that fetching
neither loses nor doubles a file.

* `Noting.Gives` — a result that does not depend on what has been written before.
* `ChangedFile.gives_ofEntries` — what is kept of a list of entries.
* `Reviewer.fetchChangedFiles_served` — what is fetched from a host that serves a list in pages.
-/

namespace InlineReview

open Text

/-! ## Computations that give a result -/

namespace Noting

variable {ε δ α β : Type}

/-- Does a computation give a result, whatever has been written before? -/
def Gives (x : Noting ε α) (r : Except ε α) : Prop := ∀ es, (x.run.run es).1 = r

theorem gives_pure (a : α) : (pure a : Noting ε α).Gives (.ok a) := fun _ => rfl

theorem gives_note (level : Level) (message : String) :
    (note level message : Noting ε Unit).Gives (.ok ()) :=
  fun _ => rfl

theorem gives_ofExcept (wrap : δ → ε) {x : Except δ α} {a : α} (h : x = .ok a) :
    (ofExcept wrap x).Gives (.ok a) := by
  rw [h]
  exact fun _ => rfl

theorem Gives.bind {x : Noting ε α} {f : α → Noting ε β} {a : α} {r : Except ε β}
    (hx : x.Gives (.ok a)) (hf : (f a).Gives r) : (x >>= f).Gives r := by
  intro es
  have hfirst := hx es
  rw [ExceptT.run_bind, StateT.run_bind]
  generalize x.run.run es = ended at hfirst
  obtain ⟨result, written⟩ := ended
  obtain rfl : result = .ok a := hfirst
  exact hf written

theorem Gives.adapt (wrap : ε → δ) {x : Noting ε α} {a : α} (hx : x.Gives (.ok a)) :
    Gives (ExceptT.adapt wrap x) (.ok a) := by
  intro es
  have hfirst := hx es
  show ((x.run.run es).1).mapError wrap = .ok a
  rw [hfirst]
  rfl

end Noting

/-! ## Entries -/

theorem Text.endsWith_iff {tail text : List Char} : endsWith tail text = true ↔ tail <:+ text := by
  rw [endsWith, startsWith, Option.isSome_iff_exists, ← List.reverse_prefix]
  constructor
  · rintro ⟨rest, h⟩
    exact ⟨rest, (eq_append_of_dropLead? h).symm⟩
  · rintro ⟨rest, h⟩
    exact ⟨rest, by rw [← h, dropLead?_append]⟩

namespace ChangedFile

/-- The text that a member of an entry holds, where it is a text or nothing. -/
def textIn? (name : String) (entry : Json) : Option (Option String) :=
  match entry.get? name with
  | none | some .null => some none
  | some (.str s) => some (some s)
  | some _ => none

/-- Is a value an entry of a list?  It is an object whose name and patch are texts if they are not
null or left out.  Every line of its patch that opens as a header has an answer, and wherever such
a line is malformed, the number that the lines before it have come to can be written. -/
structure IsEntry (entry : Json) : Prop where
  isObject : ∃ members, entry = .obj members
  exists_name : ∃ name, textIn? "filename" entry = some name
  exists_patch : ∃ patch, textIn? "patch" entry = some patch
  isAnswered : ∀ s, textIn? "patch" entry = some (some s) →
    PatchLine.IsAnswered (PatchLine.physicalLines s)
  isReportable : ∀ s, textIn? "patch" entry = some (some s) →
    PositionMap.IsReportable (PatchLine.physicalLines s)

/-- The entries of a list, by reading their patches. -/
def isEntry (entry : Json) : Bool :=
  match entry, textIn? "filename" entry, textIn? "patch" entry with
  | .obj _, some _, some patch => patch.all fun s => (PositionMap.ofPatch s).outcome.1.isOk
  | _, _, _ => false

/-- The name of the file that an entry lists, if it has one that is not empty. -/
def nameIn? (entry : Json) : Option String := (textIn? "filename" entry).join.filter (· ≠ "")

/-- Is the file that an entry lists kept?  It has a name that ends in one of the extensions. -/
def isKept (extensions : List String) (entry : Json) : Bool :=
  (nameIn? entry).any fun name => extensions.any fun e => e.toList.isSuffixOf name.toList

/-- Is a file the one that an entry lists?  It has the entry's name and patch and the map of that
patch, which is empty if there is none. -/
structure IsListedIn (entry : Json) (file : ChangedFile) : Prop where
  name_eq : nameIn? entry = some file.filename
  patch_eq : file.patch = (entry.get? "patch").getD .null
  positions_eq : ∀ s, textIn? "patch" entry = some (some s) →
    (PositionMap.ofPatch s).outcome.1 = .ok file.positions
  positions_nil : textIn? "patch" entry = some none → file.positions = []

theorem isSource_eq (name : String) (extensions : List String) :
    isSource name extensions = extensions.any fun e => e.toList.isSuffixOf name.toList := by
  rw [isSource]
  congr 1
  funext e
  rw [Bool.eq_iff_iff, endsWith_iff, List.isSuffixOf_iff_suffix]

/-- The map of a patch does not depend on what has been written before. -/
theorem gives_ofPatch {patch : String} {map : PositionMap}
    (h : (PositionMap.ofPatch patch).outcome.1 = .ok map) :
    (PositionMap.ofPatch patch).Gives (.ok map) :=
  fun es => (PositionMap.run_ofPatch_eq_ok_iff es).2 (PositionMap.outcome_ofPatch_eq_ok_iff.1 h)

/-- A text or nothing is read as the map that it has. -/
theorem gives_positionsOf {patch : Option String}
    (h : ∀ s, patch = some s → ∃ map, (PositionMap.ofPatch s).outcome.1 = .ok map) :
    ∃ map, (positionsOf (Json.ofText? patch)).Gives (.ok map) ∧
      (∀ s, patch = some s → (PositionMap.ofPatch s).outcome.1 = .ok map) ∧
      (patch = none → map = []) := by
  cases patch with
  | none => exact ⟨[], Noting.gives_pure [], by simp, fun _ => rfl⟩
  | some s =>
    obtain ⟨map, hmap⟩ := h s rfl
    refine ⟨map, ?_, fun r hr => by rw [← Option.some.inj hr, hmap], fun h => by cases h⟩
    by_cases hempty : s = ""
    · subst hempty
      obtain rfl : [] = map := Except.ok.inj hmap
      exact Noting.gives_pure []
    · have hgiven : (Json.str s).isGiven = true := by simp [Json.isGiven, hempty]
      rw [Json.ofText?, positionsOf, hgiven]
      exact (gives_ofPatch hmap).adapt _

theorem getD_of_textIn? {name : String} {entry : Json} {text : Option String}
    (h : textIn? name entry = some text) : (entry.get? name).getD .null = Json.ofText? text := by
  unfold textIn? at h
  split at h <;> cases h <;> simp [*, Json.ofText?]

theorem field_of_textIn? {name : String} {members : List (String × Json)} {text : Option String}
    (h : textIn? name (.obj members) = some text) :
    (Json.obj members).field name = .ok (Json.ofText? text) :=
  congrArg Except.ok (getD_of_textIn? h)

theorem IsEntry.parts {entry : Json} (h : IsEntry entry) :
    ∃ members name patch, entry = .obj members ∧ textIn? "filename" entry = some name ∧
      textIn? "patch" entry = some patch ∧
      ∀ s, patch = some s → ∃ map, (PositionMap.ofPatch s).outcome.1 = .ok map := by
  obtain ⟨members, rfl⟩ := h.isObject
  obtain ⟨name, hname⟩ := h.exists_name
  obtain ⟨patch, hpatch⟩ := h.exists_patch
  refine ⟨members, name, patch, rfl, hname, hpatch, ?_⟩
  rintro s rfl
  exact PositionMap.exists_map_iff.2 ⟨h.isAnswered s hpatch, h.isReportable s hpatch⟩

/-- What is read as an entry is one. -/
theorem isEntry_iff {entry : Json} : isEntry entry = true ↔ IsEntry entry := by
  constructor
  · intro h
    unfold isEntry at h
    split at h
    · rename_i members name patch hname hpatch
      have hmaps : ∀ s, textIn? "patch" (.obj members) = some (some s) →
          PatchLine.IsAnswered (PatchLine.physicalLines s) ∧
            PositionMap.IsReportable (PatchLine.physicalLines s) := by
        intro s hs
        obtain rfl : patch = some s := Option.some.inj (hpatch.symm.trans hs)
        exact PositionMap.exists_map_iff.1 (Run.exists_of_isOk h)
      exact {
        isObject := ⟨members, rfl⟩
        exists_name := ⟨name, hname⟩
        exists_patch := ⟨patch, hpatch⟩
        isAnswered := fun s hs => (hmaps s hs).1
        isReportable := fun s hs => (hmaps s hs).2 }
    · cases h
  · intro h
    obtain ⟨members, name, patch, rfl, hname, hpatch, hmaps⟩ := h.parts
    simp only [isEntry, hname, hpatch, Option.all_eq_true]
    intro s hs
    obtain ⟨map, hmap⟩ := hmaps s hs
    rw [hmap]
    rfl

instance (entry : Json) : Decidable (IsEntry entry) := decidable_of_iff _ isEntry_iff

/-! ## What is kept -/

section Reading

variable (extensions : List String) {members : List (String × Json)}

/-- An entry whose name is empty or missing is passed over. -/
theorem gives_unnamed {name : Option String}
    (hname : textIn? "filename" (.obj members) = some name) (hempty : name.filter (· ≠ "") = none) :
    (ofEntry extensions (.obj members)).Gives (.ok .unnamed) ∧
      isKept extensions (.obj members) = false := by
  have hgiven : (Json.ofText? name).isGiven = false := by
    cases name with
    | none => rfl
    | some n => simpa [Json.ofText?, Json.isGiven] using hempty
  constructor
  · refine (Noting.gives_ofExcept _ (field_of_textIn? hname)).bind ?_
    rw [hgiven]
    exact (Noting.gives_note _ _).bind (Noting.gives_pure _)
  · have hnone : nameIn? (.obj members) = none := by rw [nameIn?, hname]; exact hempty
    rw [isKept, hnone]
    rfl

theorem isKept_of_name {n : String} (hname : textIn? "filename" (.obj members) = some (some n))
    (hn : n ≠ "") :
    nameIn? (.obj members) = some n ∧
      isKept extensions (.obj members) = isSource n extensions := by
  have hsome : nameIn? (.obj members) = some n := by simp [nameIn?, hname, hn]
  refine ⟨hsome, ?_⟩
  rw [isKept, hsome, isSource_eq]
  rfl

/-- An entry whose name ends in none of the extensions is passed over. -/
theorem gives_other {n : String} (hname : textIn? "filename" (.obj members) = some (some n))
    (hn : n ≠ "") (hsource : isSource n extensions = false) :
    (ofEntry extensions (.obj members)).Gives (.ok .other) := by
  have hgiven : (Json.str n).isGiven = true := by simp [Json.isGiven, hn]
  refine (Noting.gives_ofExcept _ (field_of_textIn? hname)).bind ?_
  simp only [Json.ofText?, hgiven, hsource]
  exact Noting.gives_pure _

/-- An entry whose name ends in one of the extensions lists a file that is kept. -/
theorem gives_source {n : String} {patch : Option String}
    (hname : textIn? "filename" (.obj members) = some (some n)) (hn : n ≠ "")
    (hsource : isSource n extensions = true)
    (hpatch : textIn? "patch" (.obj members) = some patch)
    (hmaps : ∀ s, patch = some s → ∃ map, (PositionMap.ofPatch s).outcome.1 = .ok map) :
    ∃ file, (ofEntry extensions (.obj members)).Gives (.ok (.source file)) ∧
      IsListedIn (.obj members) file := by
  have hgiven : (Json.str n).isGiven = true := by simp [Json.isGiven, hn]
  obtain ⟨map, hgives, hmap, hnil⟩ := gives_positionsOf hmaps
  refine ⟨{ filename := n, patch := Json.ofText? patch, positions := map },
    (Noting.gives_ofExcept _ (field_of_textIn? hname)).bind ?_, ?_⟩
  · simp only [Json.ofText?, hgiven, hsource]
    exact (Noting.gives_ofExcept _ (field_of_textIn? hpatch)).bind
      (hgives.bind (Noting.gives_pure _))
  · exact {
      name_eq := (isKept_of_name extensions hname hn).1
      patch_eq := (getD_of_textIn? hpatch).symm
      positions_eq := fun s hs => hmap s (Option.some.inj (hpatch.symm.trans hs))
      positions_nil := fun hnone => hnil (Option.some.inj (hpatch.symm.trans hnone)) }

end Reading

/-- An entry is kept as the file that it lists, or passed over. -/
theorem gives_ofEntry (extensions : List String) {entry : Json} (h : IsEntry entry) :
    ∃ listed, (ofEntry extensions entry).Gives (.ok listed) ∧
      ((∃ file, listed = .source file ∧ isKept extensions entry = true ∧ IsListedIn entry file) ∨
        (listed = .unnamed ∨ listed = .other) ∧ isKept extensions entry = false) := by
  obtain ⟨members, name, patch, rfl, hname, hpatch, hmaps⟩ := h.parts
  cases hfull : name.filter (· ≠ "") with
  | none =>
    obtain ⟨hgives, hkept⟩ := gives_unnamed extensions hname hfull
    exact ⟨.unnamed, hgives, .inr ⟨.inl rfl, hkept⟩⟩
  | some n =>
    obtain ⟨rfl, hn⟩ := Option.filter_eq_some_iff.1 hfull
    replace hn : n ≠ "" := by simpa using hn
    have hkept := (isKept_of_name extensions hname hn).2
    cases hsource : isSource n extensions with
    | false =>
      exact ⟨.other, gives_other extensions hname hn hsource, .inr ⟨.inr rfl, hkept.trans hsource⟩⟩
    | true =>
      obtain ⟨file, hgives, hlists⟩ := gives_source extensions hname hn hsource hpatch hmaps
      exact ⟨.source file, hgives, .inl ⟨file, rfl, hkept.trans hsource, hlists⟩⟩

/-- From the entries those are kept whose name ends in one of the extensions, in their order. -/
theorem gives_ofEntries (extensions : List String) {entries : List Json}
    (h : ∀ e ∈ entries, IsEntry e) :
    ∃ files unnamed, (ofEntries extensions entries).Gives (.ok (files, unnamed)) ∧
      List.Forall₂ IsListedIn (entries.filter (isKept extensions)) files := by
  induction entries with
  | nil => exact ⟨[], 0, Noting.gives_pure _, .nil⟩
  | cons entry rest ih =>
    obtain ⟨files, unnamed, hrest, hfiles⟩ := ih fun e he => h e (by simp [he])
    obtain ⟨listed, hentry, hlisted⟩ := gives_ofEntry extensions (h entry (by simp))
    rcases hlisted with ⟨file, rfl, hkept, hlists⟩ | ⟨rfl | rfl, hkept⟩
    · refine ⟨file :: files, unnamed, hentry.bind (hrest.bind (Noting.gives_pure _)), ?_⟩
      rw [List.filter_cons_of_pos hkept]
      exact .cons hlists hfiles
    · refine ⟨files, unnamed + 1, hentry.bind (hrest.bind (Noting.gives_pure _)), ?_⟩
      rwa [List.filter_cons_of_neg (by simp [hkept])]
    · refine ⟨files, unnamed, hentry.bind hrest, ?_⟩
      rwa [List.filter_cons_of_neg (by simp [hkept])]

theorem outcome_ofListing (extensions : List String) {entries : List Json}
    (h : ∀ e ∈ entries, IsEntry e) :
    ∃ files, (ofListing (.arr entries) extensions).outcome.1 = .ok files ∧
      List.Forall₂ IsListedIn (entries.filter (isKept extensions)) files := by
  obtain ⟨files, unnamed, hentries, hfiles⟩ := gives_ofEntries extensions h
  have hlisting : (ofListing (.arr entries) extensions).Gives (.ok files) := by
    refine (Noting.gives_ofExcept _ rfl).bind (hentries.bind ?_)
    have hlast : Noting.Gives (ε := ChangeFault) (do
        Noting.note .debug
          s!"Kept {files.length} source file(s) from {entries.length} changed file entries"
        return files) (.ok files) :=
      (Noting.gives_note _ _).bind (Noting.gives_pure files)
    dsimp only
    split
    · exact (Noting.gives_note _ _).bind hlast
    · exact hlast
  exact ⟨files, hlisting [], hfiles⟩

end ChangedFile

/-! ## Fetching -/

namespace Reviewer

variable {host : Client} {fullName : String} {pull : Int}

/-- Listing from a host that serves a list in pages, as a relation on the traffic. -/
theorem obeys_listFiles_served (hremote : host.remote = .codeHost) (entries : List Json)
    (hlistable : ∀ k ≤ entries.length / CodeHost.pageSize,
      CodeHost.IsListable host fullName pull (k + 1)) :
    (CodeHost.listFiles host fullName pull).Obeys fun t res t' =>
      CodeHost.IsServed entries t.hostReplies → res = .ok entries ∧
        ∃ qs, List.Forall₂ (CodeHost.AsksFor host fullName pull)
            (List.range' 1 (entries.length / CodeHost.pageSize + 1)) qs ∧
          t'.sent = t.sent ++ qs := by
  intro w hserved
  obtain ⟨qs, w', hasks, hsent, hlist⟩ :=
    CodeHost.outcome_listFiles_served hremote hserved hlistable
  rw [hlist]
  exact ⟨rfl, qs, hasks, hsent⟩

/-- From a host that serves a list of entries in pages, exactly the pages that the list fills and
the one after them are asked for, in their order.  Listing gives the entries as they are, and
fetching gives the files of those whose name ends in one of the extensions, in their order, each
with the patch of its own entry and the map of that patch. -/
theorem fetchChangedFiles_served {entries : List Json} {w : World}
    (hremote : host.remote = .codeHost) (extensions : List String)
    (hserved : CodeHost.IsServed entries w.hostReplies)
    (hlistable : ∀ k ≤ entries.length / CodeHost.pageSize,
      CodeHost.IsListable host fullName pull (k + 1))
    (hentries : ∀ e ∈ entries, ChangedFile.IsEntry e) :
    (∃ qs w', (CodeHost.listFiles host fullName pull).outcome w = (.ok entries, w') ∧
      w'.sent = w.sent ++ qs ∧
      List.Forall₂ (CodeHost.AsksFor host fullName pull)
        (List.range' 1 (entries.length / CodeHost.pageSize + 1)) qs) ∧
    ∃ files qs w', (fetchChangedFiles host fullName pull extensions).outcome w = (.ok files, w') ∧
      w'.sent = w.sent ++ qs ∧
      List.Forall₂ (CodeHost.AsksFor host fullName pull)
        (List.range' 1 (entries.length / CodeHost.pageSize + 1)) qs ∧
      List.Forall₂ ChangedFile.IsListedIn (entries.filter (ChangedFile.isKept extensions))
        files := by
  constructor
  · obtain ⟨qs, w', hasks, hsent, hlist⟩ :=
      CodeHost.outcome_listFiles_served hremote hserved hlistable
    exact ⟨qs, w', hlist, hsent, hasks⟩
  · obtain ⟨files, hfiles, hkept⟩ := ChangedFile.outcome_ofListing extensions hentries
    have hfetch := obeys_fetching (obeys_listFiles_served hremote entries hlistable) extensions w
    rcases houtcome : (fetchChangedFiles host fullName pull extensions).outcome w with ⟨res, w'⟩
    rw [houtcome] at hfetch
    rcases hfetch with ⟨e, hlist, -⟩ | ⟨listed, hlist, hres⟩
    · cases (hlist hserved).1
    · obtain ⟨hlisted, qs, hasks, hsent⟩ := hlist hserved
      obtain rfl : listed = entries := Except.ok.inj hlisted
      rw [hfiles] at hres
      exact ⟨files, qs, w', Prod.ext hres rfl, hsent, hasks, hkept⟩

/-- A full page, on which the last entry is a source file. -/
def samplePage : Response where
  status := 200
  mediaType := none
  body := Utf8.encode ("[".toList ++ (List.replicate 99 "\x7b\x7d,".toList).flatten ++
    "\x7b\"filename\":\"a.js\",\"patch\":\"@@ -0,0 +1 @@\\n+x\"\x7d]".toList)

/-- A world in which the list fills one page. -/
def pagedWorld : World where
  hostReplies := [{ result := .ok samplePage }, { result := .ok (Response.success "[]") }]

theorem entries_samplePage :
    ∃ entries, samplePage.json = .ok (.arr entries) ∧ entries.length = 100 ∧
      (∀ e ∈ entries, ChangedFile.IsEntry e) ∧
      (entries.filter (ChangedFile.isKept [".js"])).map ChangedFile.nameIn? = [some "a.js"] := by
  have hall : (samplePage.json.toOption.bind Json.arr?).any (fun entries =>
      entries.length = 100 && entries.all (fun e => decide (ChangedFile.IsEntry e)) &&
        (entries.filter (ChangedFile.isKept [".js"])).map ChangedFile.nameIn? =
          [some "a.js"]) = true := by
    decide +kernel
  cases hentries : samplePage.json.toOption.bind Json.arr? with
  | none =>
    rw [hentries] at hall
    cases hall
  | some entries =>
    rw [hentries] at hall
    obtain ⟨v, hjson, harr⟩ := Option.bind_eq_some_iff.1 hentries
    obtain rfl : v = .arr entries := by
      cases v with
      | arr elements => rw [Option.some.inj harr]
      | _ => cases harr
    simp only [Option.any_some, Bool.and_eq_true, decide_eq_true_eq, List.all_eq_true] at hall
    exact ⟨entries, Run.toOption_eq_some.1 hjson, hall.1.1, hall.1.2, hall.2⟩

/-- The list is found to end with an empty page after the full one. -/
theorem fetchChangedFiles_pagedWorld :
    ∃ entries, entries.length = 100 ∧ CodeHost.IsServed entries pagedWorld.hostReplies ∧
      (∀ k ≤ entries.length / CodeHost.pageSize,
        CodeHost.IsListable sampleReviewer.host "o/r" 1 (k + 1)) ∧
      (∀ e ∈ entries, ChangedFile.IsEntry e) ∧
      (∃ qs w', (CodeHost.listFiles sampleReviewer.host "o/r" 1).outcome pagedWorld =
          (.ok entries, w') ∧ w'.sent = qs ∧
        List.Forall₂ (CodeHost.AsksFor sampleReviewer.host "o/r" 1) [1, 2] qs) ∧
      ∃ files w', (fetchChangedFiles sampleReviewer.host "o/r" 1 [".js"]).outcome pagedWorld =
          (.ok files, w') ∧ files.map (some ·.filename) = [some "a.js"] := by
  obtain ⟨entries, hjson, hlength, hentries, hnames⟩ := entries_samplePage
  have hpages : entries.length / CodeHost.pageSize = 1 := by rw [hlength]; rfl
  have hserved : CodeHost.IsServed entries pagedWorld.hostReplies := by
    intro k hk
    rw [hpages] at hk
    rcases Nat.le_one_iff_eq_zero_or_eq_one.1 hk with rfl | rfl
    · refine ⟨_, samplePage, rfl, rfl, rfl, ?_⟩
      rw [hjson, CodeHost.pageIn, List.take_of_length_le (by simp [hlength, CodeHost.pageSize])]
      rfl
    · refine ⟨_, Response.success "[]", rfl, rfl, rfl, ?_⟩
      rw [CodeHost.pageIn, List.drop_of_length_le (by simp [hlength, CodeHost.pageSize])]
      rfl
  have hlistable : ∀ k ≤ entries.length / CodeHost.pageSize,
      CodeHost.IsListable sampleReviewer.host "o/r" 1 (k + 1) :=
    fun k hk => isListable_sample (hpages ▸ hk)
  obtain ⟨⟨qs, w', hlist, hsent, hasks⟩, files, _, w'', hfetch, -, -, hfiles⟩ :=
    fetchChangedFiles_served rfl [".js"] hserved hlistable hentries
  rw [hpages] at hasks
  refine ⟨entries, hlength, hserved, hlistable, hentries, ⟨qs, w', hlist, hsent, hasks⟩, files, w'',
    hfetch, ?_⟩
  have hsame : List.Forall₂ (· = ·)
      ((entries.filter (ChangedFile.isKept [".js"])).map ChangedFile.nameIn?)
      (files.map (some ·.filename)) := by
    rw [List.forall₂_map_left_iff, List.forall₂_map_right_iff]
    exact hfiles.imp fun _ _ h => h.name_eq
  rw [List.forall₂_eq_eq_eq, hnames] at hsame
  exact hsame.symm

end Reviewer

end InlineReview
