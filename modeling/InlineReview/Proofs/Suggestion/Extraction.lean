import InlineReview.Model

/-!
# The text of a response

The way to the text in a response's value goes through objects and arrays, but a value on it may be
anything.  A string has something at a place as well, though only strings: where the last subscript
is a name, a way that leads somewhere has met objects and arrays alone.

* `Json.Reaches` — where subscripts lead from a value through objects and arrays.
* `Json.follow_eq_ok_iff` — the same, where strings are asked too.
* `Model.textAt?`, `Model.textAt?_eq_some_iff` — the text in a response's value.
* `Model.extractText_reaches` — what is drawn from any value.
-/

namespace InlineReview

namespace Json

/-- Do subscripts lead from a value to another one through objects and arrays, by the names of
members and the places of elements? -/
inductive Reaches : Json → List Subscript → Json → Prop
  /-- Without a subscript they stay where they are. -/
  | here {v : Json} : Reaches v [] v
  /-- A name leads from an object to its member. -/
  | member {members : List (String × Json)} {name : String} {v w : Json} {path : List Subscript}
      (hmember : Assoc.get? name members = some v) (hrest : Reaches v path w) :
      Reaches (.obj members) (.name name :: path) w
  /-- A place leads from an array to its element. -/
  | element {elements : List Json} {i : Nat} {v w : Json} {path : List Subscript}
      (helement : elements[i]? = some v) (hrest : Reaches v path w) :
      Reaches (.arr elements) (.place i :: path) w

section Reaches

variable {v w : Json} {name : String} {path : List Subscript}

theorem reaches_nil_iff : Reaches v [] w ↔ v = w := by
  constructor
  · rintro ⟨⟩
    rfl
  · rintro rfl
    exact .here

theorem reaches_name_iff :
    Reaches v (.name name :: path) w ↔ ∃ u, v.get? name = some u ∧ Reaches u path w := by
  constructor
  · rintro (_ | ⟨hmember, hrest⟩)
    exact ⟨_, hmember, hrest⟩
  · rintro ⟨u, hmember, hrest⟩
    unfold Json.get? at hmember
    split at hmember
    · exact .member hmember hrest
    · cases hmember

end Reaches

section Follow

variable {v w : Json} {name : String} {i : Nat} {k : Subscript} {path : List Subscript}

@[simp] theorem follow_nil : follow v [] = .ok v := rfl

theorem follow_cons : follow v (k :: path) = (item v k).bind fun u => follow u path := rfl

theorem follow_cons_eq_ok_iff :
    follow v (k :: path) = .ok w ↔ ∃ u, item v k = .ok u ∧ follow u path = .ok w := by
  rw [follow_cons]
  cases item v k with
  | error fault => simp [Except.bind]
  | ok u => simp [Except.bind]

theorem item_name_eq_ok_iff : item v (.name name) = .ok w ↔
    ∃ members, v = .obj members ∧ Assoc.get? name members = some w := by
  cases v with
  | obj members => cases h : Assoc.get? name members <;> simp [item, h]
  | _ => simp [item]

/-- At a place there is an element of an array or a character of a string. -/
theorem item_place_eq_ok_iff : item v (.place i) = .ok w ↔
    (∃ elements, v = .arr elements ∧ elements[i]? = some w) ∨
      ∃ s c, v = .str s ∧ s.toList[i]? = some c ∧ w = .str (String.singleton c) := by
  cases v with
  | arr elements => cases h : elements[i]? <;> simp [item, h]
  | str s => cases h : s.toList[i]? <;> simp [item, h, eq_comm]
  | _ => simp [item]

/-- A name is asked of a string, or of a character of it, in vain. -/
theorem follow_str_ne_ok (s : String) (path : List Subscript) (name : String) :
    follow (.str s) (path ++ [.name name]) ≠ .ok w := by
  induction path generalizing s with
  | nil => simp [follow_cons, item, Except.bind]
  | cons k path ih =>
    intro h
    obtain ⟨u, hitem, hrest⟩ := follow_cons_eq_ok_iff.1 h
    cases k with
    | name other => cases hitem
    | place i =>
      rcases item_place_eq_ok_iff.1 hitem with ⟨_, hv, -⟩ | ⟨_, c, -, -, rfl⟩
      · cases hv
      · exact ih (String.singleton c) hrest

/-- A way that ends in a name leads somewhere exactly through objects and arrays. -/
theorem follow_eq_ok_iff (path : List Subscript) (name : String) :
    follow v (path ++ [.name name]) = .ok w ↔ Reaches v (path ++ [.name name]) w := by
  induction path generalizing v with
  | nil =>
    rw [List.nil_append, follow_cons_eq_ok_iff]
    constructor
    · rintro ⟨u, hitem, hrest⟩
      obtain ⟨members, rfl, hmember⟩ := item_name_eq_ok_iff.1 hitem
      obtain rfl := Except.ok.inj hrest
      exact .member hmember .here
    · rintro (_ | ⟨hmember, ⟨⟩⟩)
      exact ⟨w, item_name_eq_ok_iff.2 ⟨_, rfl, hmember⟩, rfl⟩
  | cons k path ih =>
    rw [List.cons_append, follow_cons_eq_ok_iff]
    constructor
    · rintro ⟨u, hitem, hrest⟩
      cases k with
      | name other =>
        obtain ⟨members, rfl, hmember⟩ := item_name_eq_ok_iff.1 hitem
        exact .member hmember (ih.1 hrest)
      | place i =>
        rcases item_place_eq_ok_iff.1 hitem with ⟨elements, rfl, helement⟩ | ⟨_, c, -, -, rfl⟩
        · exact .element helement (ih.1 hrest)
        · exact absurd hrest (follow_str_ne_ok _ path name)
    · rintro (_ | ⟨hmember, hrest⟩ | ⟨helement, hrest⟩)
      · exact ⟨_, item_name_eq_ok_iff.2 ⟨_, rfl, hmember⟩, ih.2 hrest⟩
      · exact ⟨_, item_place_eq_ok_iff.2 (.inl ⟨_, rfl, helement⟩), ih.2 hrest⟩

end Follow

end Json

namespace Model

open Json

variable {v : Json} {text : String}

/-! ## The way to the text -/

/-- The first element of an array. -/
def first? : Json → Option Json
  | .arr (v :: _) => some v
  | _ => none

/-- The text in a response's value, at its place in the first part of the first candidate. -/
def textAt? (v : Json) : Option String := do
  let candidate ← (← v.get? "candidates") |> first?
  let part ← (← (← candidate.get? "content").get? "parts") |> first?
  (← part.get? "text").str?

theorem follow_textPath_iff {w : Json} : v.follow textPath = .ok w ↔ Reaches v textPath w :=
  follow_eq_ok_iff [.name "candidates", .place 0, .name "content", .name "parts", .place 0] "text"

theorem reaches_place_zero_iff {w : Json} {path : List Subscript} :
    Reaches v (.place 0 :: path) w ↔ ∃ u, first? v = some u ∧ Reaches u path w := by
  constructor
  · rintro (_ | _ | ⟨helement, hrest⟩)
    rename_i elements u
    cases elements with
    | nil => cases helement
    | cons u' elements => exact ⟨u, helement, hrest⟩
  · rintro ⟨u, hfirst, hrest⟩
    unfold first? at hfirst
    split at hfirst
    · exact .element hfirst hrest
    · cases hfirst

theorem textAt?_eq_some_iff : textAt? v = some text ↔ Reaches v textPath (.str text) := by
  have hstr (u : Json) : u.str? = some text ↔ u = .str text := by cases u <;> simp [Json.str?]
  simp [textAt?, textPath, reaches_name_iff, reaches_place_zero_iff, reaches_nil_iff,
    Option.bind_eq_some_iff, hstr]

theorem extractText_of_reaches (h : Reaches v textPath (.str text)) (hne : text ≠ "") :
    extractText v = text := by
  rw [extractText, follow_textPath_iff.2 h]
  exact if_neg hne

theorem extractText_of_not_reaches (h : ∀ text, text ≠ "" → ¬ Reaches v textPath (.str text)) :
    extractText v = noAnswer := by
  rw [extractText]
  split
  · rfl
  · rfl
  · rfl
  · rename_i text hfollow
    by_cases hempty : text = ""
    · exact if_pos hempty
    · exact absurd (follow_textPath_iff.1 hfollow) (h text hempty)
  · rfl

/-- In the text that stands for no answer there are no suggestions. -/
theorem read_noAnswer : Answer.read noAnswer = .ok (.suggestions []) := rfl

/-- Of every value a text is drawn that is not empty.  It is the one that the way leads to through
objects and arrays, and where no such text is, the one that stands for no answer, of which no
suggestions come. -/
theorem extractText_reaches (v : Json) :
    extractText v ≠ "" ∧
      (∀ text, text ≠ "" → Reaches v textPath (.str text) → extractText v = text) ∧
      ((∀ text, text ≠ "" → ¬ Reaches v textPath (.str text)) →
        extractText v = noAnswer ∧ Answer.read (extractText v) = .ok (.suggestions [])) := by
  refine ⟨?_, fun text hne h => extractText_of_reaches h hne, fun h => ?_⟩
  · by_cases hreaches : ∃ text, text ≠ "" ∧ Reaches v textPath (.str text)
    · obtain ⟨text, hne, h⟩ := hreaches
      rwa [extractText_of_reaches h hne]
    · have hnone : ∀ text, text ≠ "" → ¬ Reaches v textPath (.str text) :=
        fun text hne h => hreaches ⟨text, hne, h⟩
      rw [extractText_of_not_reaches hnone]
      decide
  · have hnone := extractText_of_not_reaches h
    exact ⟨hnone, hnone ▸ read_noAnswer⟩

/-- A string has something at a place, but no content, so that no way leads through it. -/
theorem extractText_sampleResponses :
    let parts (text : String) : Json := .obj [("parts", .arr [.obj [("text", .str text)]])]
    extractText (.obj [("candidates", .arr [.obj [("content", parts "t")]])]) = "t" ∧
      item (.str "ab") (.place 0) = .ok (.str "a") ∧
      extractText (.obj [("candidates", .str "ab")]) = noAnswer ∧
      Answer.read (extractText (.obj [("candidates", .str "ab")])) = .ok (.suggestions []) := by
  intro parts
  have hleads : Reaches (.obj [("candidates", .arr [.obj [("content", parts "t")]])]) textPath
      (.str "t") := follow_textPath_iff.1 rfl
  have hstops : ∀ text, text ≠ "" →
      ¬ Reaches (.obj [("candidates", .str "ab")]) textPath (.str text) := by
    intro text _ h
    cases follow_textPath_iff.2 h
  obtain ⟨-, htext, -⟩ := extractText_reaches (.obj [("candidates", .arr [.obj
    [("content", parts "t")]])])
  obtain ⟨-, -, hnone⟩ := extractText_reaches (.obj [("candidates", .str "ab")])
  exact ⟨htext "t" (by decide) hleads, rfl, hnone hstops⟩

end Model

end InlineReview
