import InlineReview.Model
import InlineReview.Proofs.Json.Spelling

/-!
# Numbers that are too long

An answer of the model may be a number of more digits than a numeral may have.  The response holds
it as a text, so that the response can be read and the answer cannot.

* `Model.json_numberResponse` — the response is read.
* `Model.readL_numberResponse` — reading the answer in it stops at the limit.
-/

namespace InlineReview

open Text

/-! ## Answers of digits -/

section Digits

variable {ds : List Char}

theorem Text.dropWhile_of_forall {p : Char → Bool} {s : List Char} (h : ∀ c ∈ s, p c = false) :
    s.dropWhile p = s := by
  cases s with
  | nil => rfl
  | cons c r => rw [List.dropWhile_cons, h c (by simp), if_neg (by simp)]

theorem Text.trimL_digits (h : ∀ c ∈ ds, isAsciiDigit c = true) : trimL ds = ds := by
  have hblank : ∀ c ∈ ds, isBlank c = false := fun c hc => not_isBlank_of_isAsciiDigit (h c hc)
  rw [trimL, trimWhere, dropWhile_of_forall hblank,
    dropWhile_of_forall fun c hc => hblank c (List.mem_reverse.1 hc), List.reverse_reverse]

/-- Digits open no block. -/
theorem Fence.fragmentL_digits (h : ∀ c ∈ ds, isAsciiDigit c = true) : Fence.fragmentL ds = ds := by
  have hbody : Fence.body? ds = none := by
    induction ds with
    | nil => rfl
    | cons c r ih =>
      have htick : '\x60' ≠ c := (ne_of_isAsciiDigit (h c (by simp)) (by decide)).symm
      have hhere : Fence.bodyHere? (c :: r) = none := by
        simp [Fence.bodyHere?, Fence.afterOpening?, Fence.ticks, dropLead?, htick]
      rw [Fence.body?, hhere]
      exact ih fun d hd => h d (by simp [hd])
  rw [Fence.fragmentL, hbody]
  rfl

end Digits

/-! ## Responses -/

namespace Model

/-- The text of a response whose answer is some text. -/
def envelope (s : List Char) : List Char :=
  Json.braced "candidates" <| Json.bracketed <| Json.braced "content" <| Json.braced "parts" <|
    Json.bracketed <| Json.braced "text" <| Json.quoted s

/-- The value of a response whose answer is some text. -/
def envelopeValue (s : List Char) : Json :=
  .obj [("candidates", .arr [.obj [("content", .obj [("parts", .arr [.obj
    [("text", .str (String.ofList s))]])])]])]

theorem isAscii_envelope {s : List Char} : IsAscii (envelope s) ↔ IsAscii s := by
  simp [envelope, Json.isAscii_braced, Json.isAscii_bracketed, Json.isAscii_quoted]

theorem readUnmarked_envelope {s t : List Char} (h : Json.SpellsText s t) :
    Json.readUnmarked (envelope t) = .ok (envelopeValue s) := by
  have hpart := ((h.quoted 994).braced "text" (by decide)).bracketed
  have hcontent := (hpart.braced "parts" (by decide)).braced "content" (by decide)
  exact (hcontent.bracketed.braced "candidates" (by decide)).readUnmarked

theorem extractText_envelopeValue {s : List Char} (h : s ≠ []) :
    extractText (envelopeValue s) = String.ofList s := by
  have hfollow : (envelopeValue s).follow textPath = .ok (.str (String.ofList s)) := rfl
  rw [extractText, hfollow]
  exact if_neg fun heq => h (String.ofList_injective heq)

/-- A response is read whose answer is spelled in ASCII. -/
theorem json_of_envelope {r : Response} {s t : List Char} (h : Json.SpellsText s t)
    (hascii : IsAscii t) (hbody : r.body = Utf8.encode (envelope t)) :
    r.json = .ok (envelopeValue s) := by
  have hdetected : decodeDetected r.body = Utf8.decodeTolerant r.body := by
    obtain ⟨rest, hrest⟩ :
        ∃ rest, Utf8.encode (envelope t) = 0x7b :: 0x22 :: 0x63 :: 0x61 :: rest := ⟨_, rfl⟩
    rw [hbody, hrest]
    rfl
  rw [Response.json, Json.ofOctets, hdetected, hbody,
    Utf8.decodeTolerant_encode (isAscii_envelope.2 hascii)]
  simp only [readUnmarked_envelope h]
  rfl

/-- A response whose answer is a number of ones. -/
def numberResponse (n : Nat) : Response where
  status := 200
  mediaType := none
  body := Utf8.encode (envelope (List.replicate n '1'))

theorem json_numberResponse (n : Nat) :
    (numberResponse n).json = .ok (envelopeValue (List.replicate n '1')) := by
  have hascii : IsAscii (List.replicate n '1') := fun c hc => by
    rw [List.eq_of_mem_replicate hc]
    decide
  have hplain : Json.IsPlainText (List.replicate n '1') := fun c hc => by
    rw [List.eq_of_mem_replicate hc]
    decide
  exact json_of_envelope (.of_plain hplain) hascii rfl

/-- The answer of such a response stops the reader if it has too many digits. -/
theorem readL_numberResponse {n : Nat} (h : Numeral.digitLimit < n) :
    ∃ v, (numberResponse n).json = .ok v ∧
      Json.readL (trimL (Fence.fragmentL (extractText v).toList)) =
        .error (.limit (.tooLong n)) := by
  have hdigits : ∀ c ∈ List.replicate n '1', isAsciiDigit c = true := fun c hc => by
    rw [List.eq_of_mem_replicate hc]
    decide
  refine ⟨_, json_numberResponse n, ?_⟩
  obtain ⟨k, rfl⟩ := Nat.exists_eq_add_of_lt h
  rw [extractText_envelopeValue (by simp), String.toList_ofList, Fence.fragmentL_digits hdigits,
    trimL_digits hdigits]
  rw [List.replicate_succ] at hdigits ⊢
  have hlength : ('1' :: List.replicate (Numeral.digitLimit + k) '1').length =
      Numeral.digitLimit + k + 1 := by
    rw [List.length_cons, List.length_replicate]
  rw [Json.readL_digits (by decide) hdigits (by rw [hlength]; exact h), hlength]

end Model

end InlineReview
