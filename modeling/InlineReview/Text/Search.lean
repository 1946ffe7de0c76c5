/-!
# Finding one text in another

`dropLead?` removes a lead from the front of a text, `breakOn?` splits a text around the first
occurrence of another one.
-/

namespace InlineReview.Text

/-- What follows `lead` in a text that starts with it. -/
def dropLead? : (lead text : List Char) → Option (List Char)
  | [], s => some s
  | _ :: _, [] => none
  | a :: l, c :: r => if a = c then dropLead? l r else none

/-- Does the text start with this lead? -/
def startsWith (lead text : List Char) : Bool := (dropLead? lead text).isSome

/-- Does the text end with this tail? -/
def endsWith (tail text : List Char) : Bool := startsWith tail.reverse text.reverse

/-- The parts of a text before and after the first occurrence of `needle`. -/
def breakOn? (needle : List Char) : List Char → Option (List Char × List Char)
  | [] => if needle.isEmpty then some ([], []) else none
  | c :: r =>
    match dropLead? needle (c :: r) with
    | some rest => some ([], rest)
    | none => (breakOn? needle r).map fun (before, rest) => (c :: before, rest)

/-- The parts of a text before and after the first character `sep`; the second part is absent
when there is no such character. -/
def breakAt (sep : Char) : List Char → List Char × Option (List Char)
  | [] => ([], none)
  | c :: r =>
    if c = sep then ([], some r)
    else
      let (before, rest) := breakAt sep r
      (c :: before, rest)

/-- Drops every `c` at the end of a text. -/
def dropTrailing (c : Char) (s : List Char) : List Char :=
  (s.reverse.dropWhile (· == c)).reverse

@[simp] theorem dropLead?_append (lead s : List Char) : dropLead? lead (lead ++ s) = some s := by
  induction lead with
  | nil => rfl
  | cons a l ih => simp [dropLead?, ih]

theorem eq_append_of_dropLead? {lead text rest : List Char} (h : dropLead? lead text = some rest) :
    text = lead ++ rest := by
  induction lead generalizing text with
  | nil => simp_all [dropLead?]
  | cons a l ih =>
    cases text with
    | nil => simp [dropLead?] at h
    | cons c r =>
      by_cases hac : a = c
      · subst hac
        simp only [dropLead?, if_true] at h
        simp [ih h]
      · simp [dropLead?, hac] at h

end InlineReview.Text
