/-!
# Association lists in order of insertion

A list of pairs is read as a finite map whose keys keep the order in which they first came.
`put` gives a key that is present a new value in its old place and adds a new key at the end.
-/

namespace InlineReview.Assoc

variable {κ ν : Type} [DecidableEq κ]

/-- The value of a key. -/
def get? (key : κ) : List (κ × ν) → Option ν
  | [] => none
  | (k, v) :: rest => if k = key then some v else get? key rest

/-- Gives a key a value. -/
def put (key : κ) (value : ν) : List (κ × ν) → List (κ × ν)
  | [] => [(key, value)]
  | (k, v) :: rest =>
    if k = key then (k, value) :: rest else (k, v) :: put key value rest

/-- Gives keys their values from left to right. -/
def putAll (entries : List (κ × ν)) (into : List (κ × ν)) : List (κ × ν) :=
  entries.foldl (fun m (k, v) => put k v m) into

/-- The map of pairs in which the last value of a key counts. -/
def ofList (entries : List (κ × ν)) : List (κ × ν) := putAll entries []

/-- The map without a key. -/
def erase (key : κ) (m : List (κ × ν)) : List (κ × ν) := m.filter (·.1 ≠ key)

@[simp] theorem get?_put (key k : κ) (value : ν) (m : List (κ × ν)) :
    get? k (put key value m) = if key = k then some value else get? k m := by
  induction m with
  | nil => simp [put, get?]
  | cons e rest ih =>
    obtain ⟨a, v⟩ := e
    by_cases h : a = key
    · subst h
      by_cases hk : a = k <;> simp [put, get?, hk]
    · by_cases hk : a = k
      · subst hk
        simp [put, get?, h, Ne.symm h]
      · simp [put, get?, h, hk, ih]

end InlineReview.Assoc
