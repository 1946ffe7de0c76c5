import InlineReview.Proofs.Json.Reads
import InlineReview.Proofs.Patch.Assignments

/-!
# Spellings of a value

A value has many documents.  A character of a string stands for itself or is escaped, by a letter,
by four hexadecimal digits or, beyond the basic plane, by a pair of such escapes, and any spaces may
stand between tokens.  `SpellsText` and `Spells` are the grammar of the documents of a value that
holds no numbers, and the reader reads every one of them.

* `readString_spelled` — a spelled string is read.
* `Spells.isReadAs` — a spelled value is read, whatever follows it.
-/

namespace InlineReview.Json

open InlineReview.Text

/-! ## Strings -/

/-- Four hexadecimal digits and their value. -/
structure IsQuad (quad : List Char) (n : Nat) : Prop where
  length_eq : quad.length = 4
  value_eq : hexQuad? quad = some n

/-- Does a text start with the escape of a second half? -/
def LowFollows (t : List Char) : Prop :=
  ∃ quad m r, t = '\x5c' :: 'u' :: (quad ++ r) ∧ IsQuad quad m ∧ isLow m = true

/-- The spellings of a string between its quotes.  The escape of a first half before that of a
second half is the spelling of the character that the two make up, and of nothing else. -/
inductive SpellsText : (s t : List Char) → Prop where
  | nil : SpellsText [] []
  | plain {c : Char} {s t : List Char} (hc : IsPlain c) (h : SpellsText s t) :
      SpellsText (c :: s) (c :: t)
  | letter {e c : Char} {s t : List Char} (he : simpleEscape? e = some c) (h : SpellsText s t) :
      SpellsText (c :: s) ('\x5c' :: e :: t)
  | unit {quad s t : List Char} {n : Nat} (hquad : IsQuad quad n)
      (halone : isHigh n = true → ¬ LowFollows t) (h : SpellsText s t) :
      SpellsText (ofCodePoint n :: s) ('\x5c' :: 'u' :: (quad ++ t))
  | pair {first second s t : List Char} {n m : Nat} (hfirst : IsQuad first n)
      (hsecond : IsQuad second m) (hhigh : isHigh n = true) (hlow : isLow m = true)
      (h : SpellsText s t) :
      SpellsText (Char.ofNat (joinPair n m) :: s)
        ('\x5c' :: 'u' :: (first ++ '\x5c' :: 'u' :: (second ++ t)))

namespace IsQuad

variable {quad : List Char} {n : Nat}

theorem hexQuad?_append (h : IsQuad quad n) (r : List Char) : hexQuad? (quad ++ r) = some n := by
  obtain ⟨hlength, hvalue⟩ := h
  match quad, hlength with
  | [_, _, _, _], _ => exact hvalue

theorem drop_append (h : IsQuad quad n) (r : List Char) : (quad ++ r).drop 4 = r := by
  rw [← h.length_eq, List.drop_left]

/-- Something follows an escape after its digits, as the reader demands. -/
theorem lt_length (h : IsQuad quad n) {r : List Char} (hr : r ≠ []) : ¬ (quad ++ r).length ≤ 4 := by
  have hpositive : 0 < r.length := List.length_pos_iff.2 hr
  rw [List.length_append, h.length_eq]
  omega

end IsQuad

/-- What a spelling has after a backslash and a `u`: digits, and the rest of a spelling unless the
digits are those of a first half. -/
theorem SpellsText.quad_of_escape {s r : List Char} (h : SpellsText s ('\x5c' :: 'u' :: r)) :
    ∃ quad m r', r = quad ++ r' ∧ IsQuad quad m ∧ (isLow m = true → ∃ s', SpellsText s' r') := by
  cases h with
  | plain hc h => exact absurd rfl hc.2.1
  | letter he h => cases he
  | unit hquad halone h => exact ⟨_, _, _, rfl, hquad, fun _ => ⟨_, h⟩⟩
  | @pair first second s t n m hfirst hsecond hhigh hlow h =>
    refine ⟨_, _, _, rfl, hfirst, ?_⟩
    intro hboth
    simp only [isHigh, isLow, Bool.and_eq_true, decide_eq_true_eq] at hhigh hboth
    omega

/-- An escape before the closing quote is one in front of it. -/
theorem escape_of_append_quote {t rest r : List Char}
    (h : t ++ '\x22' :: rest = '\x5c' :: 'u' :: r) :
    ∃ r', t = '\x5c' :: 'u' :: r' ∧ r = r' ++ '\x22' :: rest := by
  match t, h with
  | [], h => cases h
  | [_], h => cases h
  | a :: b :: t, h =>
    obtain ⟨rfl, htail⟩ := List.cons_eq_cons.1 h
    obtain ⟨rfl, hr⟩ := List.cons_eq_cons.1 htail
    exact ⟨t, rfl, hr.symm⟩

/-- No second half is seen where none follows. -/
theorem secondHalf_of_not_lowFollows {s t : List Char} (rest : List Char) (h : SpellsText s t)
    (halone : ¬ LowFollows t) : secondHalf (t ++ '\x22' :: rest) = .ok none := by
  unfold secondHalf
  split
  · rename_i r heq
    obtain ⟨r', rfl, rfl⟩ := escape_of_append_quote heq
    obtain ⟨quad, m, r'', rfl, hquad, -⟩ := h.quad_of_escape
    have hlow : ¬ isLow m = true := by
      intro hlow
      exact halone ⟨quad, m, r'', rfl, hquad, hlow⟩
    rw [List.append_assoc, if_neg (hquad.lt_length (by simp)), hquad.hexQuad?_append]
    simp only [if_neg hlow]
  · rfl

theorem readEscape_letter {e c : Char} (opening : Nat) (r : List Char)
    (he : simpleEscape? e = some c) : readEscape opening (e :: r) = .ok (c, 1) := by
  have hu : e ≠ 'u' := by
    rintro rfl
    cases he
  rw [readEscape, he]
  exact hu

theorem readEscape_unit {quad t : List Char} {n : Nat} (opening : Nat) (hquad : IsQuad quad n)
    (ht : t ≠ []) (hsecond : isHigh n = true → secondHalf t = .ok none) :
    readEscape opening ('u' :: (quad ++ t)) = .ok (ofCodePoint n, 5) := by
  rw [readEscape, if_neg (hquad.lt_length ht), hquad.hexQuad?_append]
  by_cases hhigh : isHigh n = true
  · simp only [if_pos hhigh, hquad.drop_append, hsecond hhigh]
    rfl
  · simp only [if_neg hhigh]

theorem readEscape_pair {first second t : List Char} {n m : Nat} (opening : Nat)
    (hfirst : IsQuad first n) (hsecond : IsQuad second m) (hhigh : isHigh n = true)
    (hlow : isLow m = true) (ht : t ≠ []) :
    readEscape opening ('u' :: (first ++ '\x5c' :: 'u' :: (second ++ t))) =
      .ok (Char.ofNat (joinPair n m), 11) := by
  have hhalf : secondHalf ('\x5c' :: 'u' :: (second ++ t)) = .ok (some m) := by
    rw [secondHalf, if_neg (hsecond.lt_length ht), hsecond.hexQuad?_append]
    simp only [if_pos hlow]
  rw [readEscape, if_neg (hfirst.lt_length (by simp)), hfirst.hexQuad?_append]
  simp only [if_pos hhigh, hfirst.drop_append, hhalf]
  rfl

/-- The characters of an escape already read are passed over. -/
theorem readString_owed (opening : Nat) (skipped r : List Char) :
    readString opening skipped.length (skipped ++ r) = readString opening 0 r := by
  induction skipped with
  | nil => rfl
  | cons c skipped ih =>
    rw [List.length_cons, List.cons_append, readString]
    exact ih

theorem readString_escape {opening size : Nat} {c : Char} {body r s rest : List Char}
    (hsize : body.length = size) (hescape : readEscape opening (body ++ r) = .ok (c, size))
    (hr : readString opening 0 r = .ok (s, rest)) :
    readString opening 0 ('\x5c' :: (body ++ r)) = .ok (c :: s, rest) := by
  rw [readString, if_neg (by decide), if_pos rfl, hescape]
  simp only [← hsize, readString_owed, hr]
  rfl

/-- A spelled string is read up to its closing quote. -/
theorem readString_spelled {s t : List Char} (opening : Nat) (rest : List Char)
    (h : SpellsText s t) : readString opening 0 (t ++ '\x22' :: rest) = .ok (s, rest) := by
  induction h with
  | nil => simp [readString]
  | plain hc h ih =>
    obtain ⟨hquote, hslash, hcontrol⟩ := hc
    rw [List.cons_append, readString, if_neg hquote, if_neg hslash, if_neg hcontrol, ih]
    rfl
  | @letter e c s t he h ih =>
    have hescape : readEscape opening ([e] ++ (t ++ '\x22' :: rest)) = .ok (c, 1) :=
      readEscape_letter opening _ he
    have hread : readString opening 0 ('\x5c' :: ([e] ++ (t ++ '\x22' :: rest))) =
        .ok (c :: s, rest) := readString_escape rfl hescape ih
    exact hread
  | @unit quad s t n hquad halone h ih =>
    have hescape : readEscape opening ('u' :: (quad ++ (t ++ '\x22' :: rest))) =
        .ok (ofCodePoint n, 5) :=
      readEscape_unit opening hquad (by simp) fun hhigh =>
        secondHalf_of_not_lowFollows rest h (halone hhigh)
    have hsize : ('u' :: quad).length = 5 := by rw [List.length_cons, hquad.length_eq]
    rw [List.cons_append, List.cons_append, List.append_assoc]
    exact readString_escape hsize hescape ih
  | @pair first second s t n m hfirst hsecond hhigh hlow h ih =>
    have hescape := readEscape_pair opening hfirst hsecond hhigh hlow
      (show t ++ '\x22' :: rest ≠ [] by simp)
    have hsize : ('u' :: (first ++ '\x5c' :: 'u' :: second)).length = 11 := by
      simp [hfirst.length_eq, hsecond.length_eq]
    have hbody : '\x5c' :: 'u' :: (first ++ '\x5c' :: 'u' :: (second ++ t)) ++ '\x22' :: rest =
        '\x5c' :: ('u' :: (first ++ '\x5c' :: 'u' :: second) ++ (t ++ '\x22' :: rest)) := by simp
    rw [hbody]
    refine readString_escape hsize ?_ ih
    simpa using hescape

/-- A text that stands for itself is a spelling of itself. -/
theorem SpellsText.of_plain {s : List Char} (h : IsPlainText s) : SpellsText s s := by
  induction s with
  | nil => exact .nil
  | cons c s ih =>
    apply SpellsText.plain (h c (by simp))
    apply ih
    intro d hd
    exact h d (by simp [hd])

/-! ## Values -/

/-- Is there nothing but spaces in a text? -/
def IsSpacing (s : List Char) : Prop := ∀ c ∈ s, isSpace c = true

theorem isSpacing_nil : IsSpacing [] := by simp [IsSpacing]

theorem isSpacing_blank : IsSpacing [' '] := by simp [IsSpacing, isSpace]

/-- The values that are written as a word and are no numbers. -/
def literals : List (String × Json) :=
  [("null", .null), ("true", .bool true), ("false", .bool false)]

/-- A part of a document: a value, or the elements of an array or the members of an object up to and
with the bracket that closes it. -/
inductive Part where
  | value (v : Json)
  | elements (vs : List Json)
  | members (ms : List (String × Json))

/-- The spellings of a part in which arrays and objects are nested no deeper than to a limit. -/
inductive Spells : (depth : Nat) → Part → List Char → Prop where
  | word {d : Nat} {w : String} {v : Json} (h : (w, v) ∈ literals) : Spells d (.value v) w.toList
  | string {d : Nat} {s : String} {t : List Char} (h : SpellsText s.toList t) :
      Spells d (.value (.str s)) ('\x22' :: (t ++ ['\x22']))
  | noElements {d : Nat} {gap : List Char} (hgap : IsSpacing gap) :
      Spells (d + 1) (.value (.arr [])) ('[' :: (gap ++ [']']))
  | array {d : Nat} {vs : List Json} {gap t : List Char} (hgap : IsSpacing gap)
      (h : Spells d (.elements vs) t) : Spells (d + 1) (.value (.arr vs)) ('[' :: (gap ++ t))
  | lastElement {d : Nat} {v : Json} {t gap : List Char} (h : Spells d (.value v) t)
      (hgap : IsSpacing gap) : Spells d (.elements [v]) (t ++ (gap ++ [']']))
  | element {d : Nat} {v : Json} {vs : List Json} {t before after r : List Char}
      (h : Spells d (.value v) t) (hbefore : IsSpacing before) (hafter : IsSpacing after)
      (hrest : Spells d (.elements vs) r) :
      Spells d (.elements (v :: vs)) (t ++ (before ++ ',' :: (after ++ r)))
  | noMembers {d : Nat} {gap : List Char} (hgap : IsSpacing gap) :
      Spells (d + 1) (.value (.obj [])) ('\x7b' :: (gap ++ ['\x7d']))
  | object {d : Nat} {ms : List (String × Json)} {gap t : List Char}
      (hnames : (ms.map Prod.fst).Nodup) (hgap : IsSpacing gap) (h : Spells d (.members ms) t) :
      Spells (d + 1) (.value (.obj ms)) ('\x7b' :: (gap ++ t))
  | lastMember {d : Nat} {name : String} {v : Json} {n before after t gap : List Char}
      (hname : SpellsText name.toList n) (hbefore : IsSpacing before) (hafter : IsSpacing after)
      (h : Spells d (.value v) t) (hgap : IsSpacing gap) :
      Spells d (.members [(name, v)])
        ('\x22' :: (n ++ '\x22' :: (before ++ ':' :: (after ++ (t ++ (gap ++ ['\x7d']))))))
  | member {d : Nat} {name : String} {v : Json} {ms : List (String × Json)}
      {n before after t beforeComma afterComma r : List Char}
      (hname : SpellsText name.toList n) (hbefore : IsSpacing before) (hafter : IsSpacing after)
      (h : Spells d (.value v) t) (hbeforeComma : IsSpacing beforeComma)
      (hafterComma : IsSpacing afterComma) (hrest : Spells d (.members ms) r) :
      Spells d (.members ((name, v) :: ms))
        ('\x22' :: (n ++ '\x22' :: (before ++ ':' :: (after ++
          (t ++ (beforeComma ++ ',' :: (afterComma ++ r)))))))

/-- Does the reader read a text as a part, and stop before this rest? -/
def Part.IsReadAs (fuel depth : Nat) (s rest : List Char) : Part → Prop
  | .value v => readValue fuel depth s = .ok (v, rest)
  | .elements vs => readElements fuel depth s = .ok (vs, rest)
  | .members ms => readMembers fuel depth s = .ok (ms, rest)

/-- The characters with which a value or a member may start. -/
def openers : List Char := ['\x22', '[', '\x7b', 'n', 't', 'f']

theorem Spells.opener {d : Nat} {p : Part} {t : List Char} (h : Spells d p t) :
    ∃ c r, t = c :: r ∧ c ∈ openers := by
  induction h with
  | word h =>
    simp only [literals, List.mem_cons, Prod.mk.injEq, List.not_mem_nil, or_false] at h
    rcases h with ⟨rfl, -⟩ | ⟨rfl, -⟩ | ⟨rfl, -⟩
    · exact ⟨_, _, rfl, by decide⟩
    · exact ⟨_, _, rfl, by decide⟩
    · exact ⟨_, _, rfl, by decide⟩
  | lastElement h hgap ih =>
    obtain ⟨c, r, rfl, hc⟩ := ih
    exact ⟨c, _, rfl, hc⟩
  | element h hbefore hafter hrest ih =>
    obtain ⟨c, r, rfl, hc⟩ := ih
    exact ⟨c, _, rfl, hc⟩
  | _ => exact ⟨_, _, rfl, by decide⟩

theorem skipSpace_spacing {gap : List Char} {c : Char} (r : List Char) (hgap : IsSpacing gap)
    (hc : isSpace c = false) : skipSpace (gap ++ c :: r) = c :: r := by
  rw [skipSpace, List.dropWhile_append_of_pos hgap]
  exact skipSpace_cons hc

theorem not_isSpace_of_mem_openers {c : Char} (h : c ∈ openers) : isSpace c = false :=
  (show ∀ c ∈ openers, isSpace c = false by simp [openers, isSpace]) c h

theorem Spells.skipSpace {d : Nat} {p : Part} {t gap : List Char} (h : Spells d p t)
    (hgap : IsSpacing gap) (rest : List Char) :
    skipSpace (gap ++ (t ++ rest)) = t ++ rest := by
  obtain ⟨c, r, rfl, hc⟩ := h.opener
  exact skipSpace_spacing _ hgap (not_isSpace_of_mem_openers hc)

/-! ## Steps of the reader -/

section Steps

variable {fuel depth : Nat} {gap before after s r t rest : List Char} {v : Json}

theorem readValue_word {w : String} (hw : (w, v) ∈ literals) :
    readValue (fuel + 1) depth (w.toList ++ rest) = .ok (v, rest) := by
  simp only [literals, List.mem_cons, Prod.mk.injEq, List.not_mem_nil, or_false] at hw
  rcases hw with ⟨rfl, rfl⟩ | ⟨rfl, rfl⟩ | ⟨rfl, rfl⟩
  · rfl
  · rfl
  · rfl

theorem readValue_string (fuel depth : Nat) (rest : List Char) (h : SpellsText s t) :
    readValue (fuel + 1) depth ('\x22' :: (t ++ '\x22' :: rest)) =
      .ok (.str (String.ofList s), rest) := by
  rw [readValue.eq_def]
  simp only [if_pos, readString_spelled _ rest h]
  rfl

theorem readValue_array {vs : List Json} {c : Char} (hc : c ∈ openers) (hgap : IsSpacing gap)
    (h : readElements fuel depth (c :: r) = .ok (vs, rest)) :
    readValue (fuel + 1) (depth + 1) ('[' :: (gap ++ c :: r)) = .ok (.arr vs, rest) := by
  have hopen : c ≠ ']' := by
    rintro rfl
    exact absurd hc (by decide)
  rw [readValue, if_neg (by decide), if_neg (by decide), if_pos rfl]
  simp only [skipSpace_spacing r hgap (not_isSpace_of_mem_openers hc)]
  split
  · rename_i heq
    exact absurd (List.cons.inj heq).1 hopen
  · rw [h]
    rfl

theorem readValue_object {ms : List (String × Json)} {c : Char} (hc : c ∈ openers)
    (hgap : IsSpacing gap) (hnames : (ms.map Prod.fst).Nodup)
    (h : readMembers fuel depth (c :: r) = .ok (ms, rest)) :
    readValue (fuel + 1) (depth + 1) ('\x7b' :: (gap ++ c :: r)) = .ok (.obj ms, rest) := by
  have hopen : c ≠ '\x7d' := by
    rintro rfl
    exact absurd hc (by decide)
  rw [readValue, if_neg (by decide), if_pos rfl]
  simp only [skipSpace_spacing r hgap (not_isSpace_of_mem_openers hc)]
  split
  · rename_i heq
    exact absurd (List.cons.inj heq).1 hopen
  · rw [h]
    exact congrArg (fun ms => Except.ok (Json.obj ms, rest)) (Assoc.ofList_of_nodup hnames)

theorem readValue_noElements (fuel depth : Nat) (rest : List Char) (hgap : IsSpacing gap) :
    readValue (fuel + 1) (depth + 1) ('[' :: (gap ++ ']' :: rest)) = .ok (.arr [], rest) := by
  rw [readValue, if_neg (by decide), if_neg (by decide), if_pos rfl]
  simp only [skipSpace_spacing rest hgap (show isSpace ']' = false by decide)]

theorem readValue_noMembers (fuel depth : Nat) (rest : List Char) (hgap : IsSpacing gap) :
    readValue (fuel + 1) (depth + 1) ('\x7b' :: (gap ++ '\x7d' :: rest)) = .ok (.obj [], rest) := by
  rw [readValue, if_neg (by decide), if_pos rfl]
  simp only [skipSpace_spacing rest hgap (show isSpace '\x7d' = false by decide)]

theorem readElements_last (h : readValue fuel depth s = .ok (v, gap ++ ']' :: rest))
    (hgap : IsSpacing gap) : readElements (fuel + 1) depth s = .ok ([v], rest) := by
  rw [readElements, h]
  simp only [skipSpace_spacing rest hgap (show isSpace ']' = false by decide)]

theorem readElements_cons {vs : List Json}
    (h : readValue fuel depth s = .ok (v, gap ++ ',' :: r)) (hgap : IsSpacing gap)
    (hr : readElements fuel depth (skipSpace r) = .ok (vs, rest)) :
    readElements (fuel + 1) depth s = .ok (v :: vs, rest) := by
  rw [readElements, h]
  simp only [skipSpace_spacing r hgap (show isSpace ',' = false by decide), hr]
  rfl

theorem readMembers_last {name : String} {n : List Char} (hname : SpellsText name.toList n)
    (hbefore : IsSpacing before)
    (h : readValue fuel depth (skipSpace r) = .ok (v, gap ++ '\x7d' :: rest))
    (hgap : IsSpacing gap) :
    readMembers (fuel + 1) depth ('\x22' :: (n ++ '\x22' :: (before ++ ':' :: r))) =
      .ok ([(name, v)], rest) := by
  rw [readMembers, readString_spelled _ _ hname]
  simp only [skipSpace_spacing r hbefore (show isSpace ':' = false by decide), h,
    skipSpace_spacing rest hgap (show isSpace '\x7d' = false by decide), String.ofList_toList]

theorem readMembers_cons {name : String} {n : List Char} {ms : List (String × Json)}
    (hname : SpellsText name.toList n) (hbefore : IsSpacing before)
    (h : readValue fuel depth (skipSpace r) = .ok (v, gap ++ ',' :: t)) (hgap : IsSpacing gap)
    (ht : readMembers fuel depth (skipSpace t) = .ok (ms, rest)) :
    readMembers (fuel + 1) depth ('\x22' :: (n ++ '\x22' :: (before ++ ':' :: r))) =
      .ok ((name, v) :: ms, rest) := by
  rw [readMembers, readString_spelled _ _ hname]
  simp only [skipSpace_spacing r hbefore (show isSpace ':' = false by decide), h,
    skipSpace_spacing t hgap (show isSpace ',' = false by decide), ht, String.ofList_toList]
  rfl

end Steps

/-! ## Reading what is spelled -/

/-- A spelled part is read, whatever follows it, if there are two steps for each character. -/
theorem Spells.isReadAs {d : Nat} {p : Part} {t : List Char} (h : Spells d p t) (fuel : Nat)
    (hfuel : 2 * t.length ≤ fuel) (k : Nat) (rest : List Char) :
    p.IsReadAs fuel (k + d) (t ++ rest) rest := by
  induction h generalizing fuel rest with
  | @word d w v h =>
    have hne : w.toList ≠ [] := (show ∀ l ∈ literals, l.1.toList ≠ [] by decide) (w, v) h
    have hpositive : 0 < w.toList.length := List.length_pos_iff.2 hne
    obtain ⟨f, rfl⟩ : ∃ f, fuel = f + 1 := ⟨fuel - 1, by omega⟩
    exact readValue_word h
  | @string d s t h =>
    obtain ⟨f, rfl⟩ : ∃ f, fuel = f + 1 := ⟨fuel - 1, by simp at hfuel; omega⟩
    have hread := readValue_string f (k + d) rest h
    simpa [Part.IsReadAs] using hread
  | @noElements d gap hgap =>
    obtain ⟨f, rfl⟩ : ∃ f, fuel = f + 1 := ⟨fuel - 1, by simp at hfuel; omega⟩
    have hread := readValue_noElements f (k + d) rest hgap
    simpa [Part.IsReadAs, Nat.add_assoc] using hread
  | @array d vs gap t hgap h ih =>
    obtain ⟨f, rfl⟩ : ∃ f, fuel = f + 1 := ⟨fuel - 1, by simp at hfuel; omega⟩
    have helements := ih f (by simp at hfuel; omega) rest
    obtain ⟨c, r, rfl, hc⟩ := h.opener
    have hread := readValue_array hc hgap helements
    simpa [Part.IsReadAs, Nat.add_assoc] using hread
  | @lastElement d v t gap h hgap ih =>
    obtain ⟨f, rfl⟩ : ∃ f, fuel = f + 1 := ⟨fuel - 1, by simp at hfuel; omega⟩
    have hvalue := ih f (by simp at hfuel; omega) (gap ++ ']' :: rest)
    have hread := readElements_last hvalue hgap
    simpa [Part.IsReadAs] using hread
  | @element d v vs t before after r h hbefore hafter hrest ih ihrest =>
    obtain ⟨f, rfl⟩ : ∃ f, fuel = f + 1 := ⟨fuel - 1, by simp at hfuel; omega⟩
    have hvalue := ih f (by simp at hfuel; omega) (before ++ ',' :: (after ++ (r ++ rest)))
    have hvalues := ihrest f (by simp at hfuel; omega) rest
    rw [← hrest.skipSpace hafter] at hvalues
    have hread := readElements_cons hvalue hbefore hvalues
    simpa [Part.IsReadAs] using hread
  | @noMembers d gap hgap =>
    obtain ⟨f, rfl⟩ : ∃ f, fuel = f + 1 := ⟨fuel - 1, by simp at hfuel; omega⟩
    have hread := readValue_noMembers f (k + d) rest hgap
    simpa [Part.IsReadAs, Nat.add_assoc] using hread
  | @object d ms gap t hnames hgap h ih =>
    obtain ⟨f, rfl⟩ : ∃ f, fuel = f + 1 := ⟨fuel - 1, by simp at hfuel; omega⟩
    have hmembers := ih f (by simp at hfuel; omega) rest
    obtain ⟨c, r, rfl, hc⟩ := h.opener
    have hread := readValue_object hc hgap hnames hmembers
    simpa [Part.IsReadAs, Nat.add_assoc] using hread
  | @lastMember d name v n before after t gap hname hbefore hafter h hgap ih =>
    obtain ⟨f, rfl⟩ : ∃ f, fuel = f + 1 := ⟨fuel - 1, by simp at hfuel; omega⟩
    have hvalue := ih f (by simp at hfuel; omega) (gap ++ '\x7d' :: rest)
    rw [← h.skipSpace hafter] at hvalue
    have hread := readMembers_last hname hbefore hvalue hgap
    simpa [Part.IsReadAs] using hread
  | @member d name v ms n before after t beforeComma afterComma r hname hbefore hafter h
      hbeforeComma hafterComma hrest ih ihrest =>
    obtain ⟨f, rfl⟩ : ∃ f, fuel = f + 1 := ⟨fuel - 1, by simp at hfuel; omega⟩
    have hvalue := ih f (by simp at hfuel; omega)
      (beforeComma ++ ',' :: (afterComma ++ (r ++ rest)))
    have hmembers := ihrest f (by simp at hfuel; omega) rest
    rw [← h.skipSpace hafter] at hvalue
    rw [← hrest.skipSpace hafterComma] at hmembers
    have hread := readMembers_cons hname hbefore hvalue hbeforeComma hmembers
    simpa [Part.IsReadAs] using hread

/-- A spelled value is read as a document. -/
theorem Spells.readUnmarked {v : Json} {t : List Char} (h : Spells nestingLimit (.value v) t) :
    readUnmarked t = .ok v := by
  obtain ⟨c, r, rfl, hc⟩ := h.opener
  have hvalue : readValue (2 * (c :: r).length + 2) nestingLimit (c :: r) = .ok (v, []) := by
    have hread := h.isReadAs _ (Nat.le_add_right _ 2) 0 []
    simpa [Part.IsReadAs] using hread
  rw [Json.readUnmarked, readWhole, skipSpace_cons (not_isSpace_of_mem_openers hc), hvalue]
  rfl

theorem Spells.readL {v : Json} {t : List Char} (h : Spells nestingLimit (.value v) t) :
    readL t = .ok v := by
  obtain ⟨c, r, rfl, hc⟩ := h.opener
  have hmark : c ≠ '\uFEFF' := by
    rintro rfl
    exact absurd hc (by decide)
  unfold Json.readL
  split
  · rename_i heq
    exact absurd (List.cons.inj heq).1 hmark
  · exact h.readUnmarked

/-! ## Texts in quotes, brackets and braces -/

theorem SpellsText.quoted {s t : List Char} (h : SpellsText s t) (d : Nat) :
    Spells d (.value (.str (String.ofList s))) (quoted t) :=
  .string (by rwa [String.toList_ofList])

theorem Spells.bracketed {d : Nat} {v : Json} {t : List Char} (h : Spells d (.value v) t) :
    Spells (d + 1) (.value (.arr [v])) (bracketed t) := by
  have harray := Spells.array isSpacing_nil (.lastElement h isSpacing_nil)
  simpa [Json.bracketed] using harray

theorem Spells.braced {d : Nat} {v : Json} {t : List Char} (h : Spells d (.value v) t)
    (name : String) (hname : IsPlainText name.toList) :
    Spells (d + 1) (.value (.obj [(name, v)])) (braced name t) := by
  have hmember := Spells.lastMember (.of_plain hname) isSpacing_nil isSpacing_blank h isSpacing_nil
  have hobject := Spells.object (by simp) isSpacing_nil hmember
  simpa [Json.braced, Json.quoted] using hobject

/-- A last member without any space between its tokens. -/
theorem Spells.lastNamed {d : Nat} {v : Json} {t : List Char} (h : Spells d (.value v) t)
    (name : String) (hname : IsPlainText name.toList) :
    Spells d (.members [(name, v)]) (quoted name.toList ++ ':' :: (t ++ ['\x7d'])) := by
  have hmember := Spells.lastMember (.of_plain hname) isSpacing_nil isSpacing_nil h isSpacing_nil
  simpa [Json.quoted] using hmember

/-- A member without any space between its tokens, before others. -/
theorem Spells.named {d : Nat} {v : Json} {ms : List (String × Json)} {t r : List Char}
    (h : Spells d (.value v) t) (name : String) (hname : IsPlainText name.toList)
    (hrest : Spells d (.members ms) r) :
    Spells d (.members ((name, v) :: ms)) (quoted name.toList ++ ':' :: (t ++ ',' :: r)) := by
  have hmember := Spells.member (.of_plain hname) isSpacing_nil isSpacing_nil h isSpacing_nil
    isSpacing_nil hrest
  simpa [Json.quoted] using hmember

/-- The characters with which a value may end. -/
def closers : List Char := ['\x22', ']', '\x7d', 'l', 'e']

theorem Spells.closer {d : Nat} {p : Part} {t : List Char} (h : Spells d p t) :
    ∃ r c, t = r ++ [c] ∧ c ∈ closers := by
  induction h with
  | word h =>
    simp only [literals, List.mem_cons, Prod.mk.injEq, List.not_mem_nil, or_false] at h
    rcases h with ⟨rfl, -⟩ | ⟨rfl, -⟩ | ⟨rfl, -⟩
    · exact ⟨['n', 'u', 'l'], 'l', rfl, by decide⟩
    · exact ⟨['t', 'r', 'u'], 'e', rfl, by decide⟩
    · exact ⟨['f', 'a', 'l', 's'], 'e', rfl, by decide⟩
  | @string d s t h => exact ⟨'\x22' :: t, '\x22', rfl, by decide⟩
  | @noElements d gap hgap => exact ⟨'[' :: gap, ']', rfl, by decide⟩
  | @array d vs gap t hgap h ih =>
    obtain ⟨r, c, rfl, hc⟩ := ih
    exact ⟨'[' :: (gap ++ r), c, by simp, hc⟩
  | @lastElement d v t gap h hgap ih => exact ⟨t ++ gap, ']', by simp, by decide⟩
  | @element d v vs t before after r h hbefore hafter hrest ih ihrest =>
    obtain ⟨r, c, rfl, hc⟩ := ihrest
    exact ⟨t ++ (before ++ ',' :: (after ++ r)), c, by simp, hc⟩
  | @noMembers d gap hgap => exact ⟨'\x7b' :: gap, '\x7d', rfl, by decide⟩
  | @object d ms gap t hnames hgap h ih =>
    obtain ⟨r, c, rfl, hc⟩ := ih
    exact ⟨'\x7b' :: (gap ++ r), c, by simp, hc⟩
  | @lastMember d name v n before after t gap hname hbefore hafter h hgap ih =>
    exact ⟨'\x22' :: (n ++ '\x22' :: (before ++ ':' :: (after ++ (t ++ gap)))), '\x7d', by simp,
      by decide⟩
  | @member d name v ms n before after t beforeComma afterComma r hname hbefore hafter h
      hbeforeComma hafterComma hrest ih ihrest =>
    obtain ⟨r, c, rfl, hc⟩ := ihrest
    exact ⟨'\x22' :: (n ++ '\x22' :: (before ++ ':' :: (after ++
      (t ++ (beforeComma ++ ',' :: (afterComma ++ r)))))), c, by simp, hc⟩

end InlineReview.Json
