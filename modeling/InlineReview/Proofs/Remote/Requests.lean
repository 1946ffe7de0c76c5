import InlineReview.CodeHost
import InlineReview.Model
import InlineReview.Proofs.Text.Ascii
import Mathlib.Data.List.TakeWhile

/-!
# Requests that can be put together

Whether a client can put a request together depends on its address and on its body apart from
each other: a request without a body tells of the address, and a body can be sent if UTF-8 can
write it, that is, if none of its texts holds half of a pair.

* `Client.request_of_bare` — the request with a body, where one without can be put together.
* `Json.isWritable_question`, `isWritable_comment`, `isWritable_checkRun` — the bodies that can be
  sent.
-/

namespace InlineReview

open Text

/-! ## Text that UTF-8 can write -/

namespace Text

/-- Can UTF-8 write a text?  It must not hold half of a pair. -/
def IsWritable (s : List Char) : Prop := ∀ c ∈ s, isStandIn c = false

instance (s : List Char) : Decidable (IsWritable s) :=
  List.decidableBAll (fun c : Char => isStandIn c = false) s

@[simp] theorem isWritable_nil : IsWritable [] := by simp [IsWritable]

@[simp] theorem isWritable_cons {c : Char} {s : List Char} :
    IsWritable (c :: s) ↔ isStandIn c = false ∧ IsWritable s := by
  simp [IsWritable]

@[simp] theorem isWritable_append {s r : List Char} :
    IsWritable (s ++ r) ↔ IsWritable s ∧ IsWritable r := by
  simp [IsWritable, or_imp, forall_and]

theorem isWritable_flatMap {f : Char → List Char} {s : List Char}
    (h : ∀ c, IsWritable (f c) ↔ isStandIn c = false) :
    IsWritable (s.flatMap f) ↔ IsWritable s := by
  induction s with
  | nil => simp
  | cons c s ih => rw [List.flatMap_cons, isWritable_append, isWritable_cons, h, ih]

theorem drop_takeWhile (p : Char → Bool) (s : List Char) :
    s.drop (s.takeWhile p).length = s.dropWhile p := by
  induction s with
  | nil => rfl
  | cons c s ih => by_cases h : p c <;> simp [h, ih]

/-- A text is refused exactly if it is not writable. -/
theorem of?_utf8_eq_none {s : List Char} : EncodeFault.of? .utf8 s = none ↔ IsWritable s := by
  have hnil : s.dropWhile Written.utf8.holds = [] ↔ IsWritable s := by
    simp [List.dropWhile_eq_nil_iff, IsWritable, Written.holds]
  rw [← hnil, EncodeFault.of?, drop_takeWhile]
  cases s.dropWhile Written.utf8.holds <;> simp

theorem isWritable_digits (n : Nat) : IsWritable n.repr.toList := by
  intro c hc
  rw [Nat.toList_repr] at hc
  have hdigit := Nat.isDigit_of_mem_toDigits (by decide) (by decide) hc
  refine isStandIn_of_lt ?_
  simp only [Char.isDigit, Bool.and_eq_true, decide_eq_true_eq] at hdigit
  have hle : c.val.toNat ≤ 57 := UInt32.le_iff_toNat_le.1 hdigit.2
  exact Nat.lt_of_le_of_lt hle (by decide)

theorem isWritable_repr (n : Int) : IsWritable n.repr.toList := by
  cases n with
  | ofNat n => exact isWritable_digits n
  | negSucc n =>
    have htext : (Int.negSucc n).repr.toList = '-' :: (n + 1).repr.toList := by simp [Int.repr]
    rw [htext, isWritable_cons]
    exact ⟨by decide, isWritable_digits _⟩

theorem isStandIn_hexDigit {n : Nat} (h : n < 16) : isStandIn (hexDigit n) = false := by
  have hall : ∀ k < 16, isStandIn (hexDigit k) = false := by decide
  exact hall n h

theorem isWritable_hexDigits (width n : Nat) : IsWritable (hexDigits width n) := by
  induction width generalizing n with
  | zero => exact isWritable_nil
  | succ width ih =>
    rw [hexDigits, isWritable_append]
    exact ⟨ih _, by simp [isStandIn_hexDigit (Nat.mod_lt n (by decide : 0 < 16))]⟩

end Text

/-! ## Bodies that can be sent -/

namespace Json

theorem isWritable_plainChar (c : Char) : IsWritable (plainChar c) ↔ isStandIn c = false := by
  unfold plainChar
  split
  · rename_i h
    rcases (by simpa using h : c = '\x22' ∨ c = '\x5c') with rfl | rfl <;> decide
  iterate 5
    split
    · subst c
      decide
  split
  · have hc : isStandIn c = false := isStandIn_of_lt (by omega)
    simp [unitEscape, hc, isWritable_hexDigits]
    decide
  · simp

@[simp] theorem isWritable_writtenString (s : List Char) :
    IsWritable (writtenString plainChar s) ↔ IsWritable s := by
  have hquote : isStandIn '\x22' = false := by decide
  simp [writtenString, hquote, isWritable_flatMap isWritable_plainChar]

theorem isWritable_ofText? (text : Option String) :
    IsWritable (plainL (ofText? text)) ↔ ∀ s, text = some s → IsWritable s.toList := by
  cases text with
  | none => exact iff_of_true (by decide) (by simp)
  | some s => simp [ofText?, plainL, writtenL]

/-- A question can be sent if it is writable. -/
theorem isWritable_question (question : String) :
    IsWritable (plainL (Model.payload question)) ↔ IsWritable question.toList := by
  simp [plainL, Model.payload, writtenL, writtenElements, writtenMembers, isStandIn_of_lt]

/-- A comment can be sent if its body, its path and the commit are writable. -/
theorem isWritable_comment (body path : String) (commit : Option String) (position : Int) :
    IsWritable (plainL (.obj [("body", .str body), ("commit_id", ofText? commit),
      ("path", .str path), ("position", .int position)])) ↔
        IsWritable body.toList ∧ (∀ s, commit = some s → IsWritable s.toList) ∧
          IsWritable path.toList := by
  have hcommit := isWritable_ofText? commit
  simp only [plainL] at hcommit
  simp [plainL, writtenL, writtenMembers, isStandIn_of_lt, hcommit, isWritable_repr]

/-- A check run can be sent if its texts are writable. -/
theorem isWritable_checkRun (run : CodeHost.CheckRun) :
    IsWritable (plainL run.payload) ↔
      IsWritable run.name.toList ∧ (∀ s, run.commit = some s → IsWritable s.toList) ∧
        IsWritable run.conclusion.toList ∧ IsWritable run.title.toList ∧
          IsWritable run.summary.toList ∧ ∀ s, run.text = some s → IsWritable s.toList := by
  have hcommit := isWritable_ofText? run.commit
  simp only [plainL] at hcommit
  unfold CodeHost.CheckRun.payload
  split <;> simp [plainL, writtenL, writtenMembers, isStandIn_of_lt, *]

end Json

/-! ## Requests -/

namespace Client

theorem checkBody_none : checkBody none = .ok () := rfl

theorem checkBody_some {v : Json} : checkBody (some v) = .ok () ↔ IsWritable v.plainL := by
  rw [← of?_utf8_eq_none, checkBody, Option.bind_some]
  cases EncodeFault.of? .utf8 v.plainL <;> simp

variable {c : Client} {method : Method} {path : String} {parameters : Option String}
  {body : Option Json} {q : Request}

theorem parts_of_request (h : c.request method path parameters body = .ok q) :
    q.remote = c.remote ∧ q.method = method ∧ q.body = body := by
  unfold request at h
  simp only [bind, Except.bind, pure, Except.pure, throw, throwThe, MonadExceptOf.throw] at h
  repeat' split at h
  all_goals first | cases h; exact ⟨rfl, rfl, rfl⟩ | cases h

/-- Where a request without a body can be put together, one with a body can be exactly if the body
passes. -/
theorem request_of_bare (h : c.request method path parameters none = .ok q) :
    c.request method path parameters body =
      ((checkBody body).mapError .unwritable).map fun _ =>
        { q with body, headers := c.headersFor body.isSome } := by
  unfold request at h ⊢
  simp only [bind, Except.bind, pure, Except.pure, throw, throwThe, MonadExceptOf.throw,
    checkBody_none] at h ⊢
  by_cases hclosed : (! c.isOpen && decide (c.remote = .codeHost)) = true
  · rw [if_pos hclosed] at h
    cases h
  rw [if_neg hclosed] at h ⊢
  cases haddress : c.base.request path parameters with
  | error fault => simp [haddress, Except.mapError] at h
  | ok address =>
    cases hheader : Base.checkHeader address with
    | error fault => simp [haddress, hheader, Except.mapError] at h
    | ok _ =>
      by_cases hopen : (! c.isOpen) = true
      · simp [haddress, hheader, hopen, Except.mapError] at h
      cases hname : Base.checkName address with
      | error fault => simp [haddress, hheader, hopen, hname, Except.mapError] at h
      | ok _ =>
        simp only [haddress, hheader, hname, Except.mapError, if_neg hopen] at h ⊢
        cases h
        cases checkBody body <;> rfl

theorem request_of_writable {v : Json} (h : c.request method path parameters none = .ok q)
    (hv : IsWritable v.plainL) :
    c.request method path parameters (some v) =
      .ok { q with body := some v, headers := c.headersFor true } := by
  rw [request_of_bare h, checkBody_some.2 hv]
  rfl

theorem request_of_not_writable {v : Json} (h : c.request method path parameters none = .ok q)
    (hv : ¬ IsWritable v.plainL) :
    ∃ fault, c.request method path parameters (some v) = .error (.unwritable fault) := by
  rw [request_of_bare h]
  cases hbody : checkBody (some v) with
  | ok _ => exact absurd (checkBody_some.1 hbody) hv
  | error fault => exact ⟨fault, rfl⟩

end Client

end InlineReview
