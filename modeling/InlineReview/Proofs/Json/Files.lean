import InlineReview.FileStore
import InlineReview.Json.Reader
import InlineReview.Proofs.Text.Octets

/-!
# Documents in files

What is read from a file as a document can be wanting in three ways: there is no such file, its text
is no document, or nothing can be said about it since reading stops before.  The last is the case of
octets that are no text and of a text that passes a limit of the reader.

* `FileStore.text_eq_ok_iff` — the texts that are read from files.
* `FileStore.StopsReading` — the files of which reading stops.
* `FileStore.stopsReading_iff` — what reading such a file comes to.
-/

namespace InlineReview

open Text

namespace FileStore

variable {store : FileStore} {path : Path}

/-- A text is read from a file exactly if UTF-8 writes the file so, but for its newlines. -/
theorem text_eq_ok_iff {t : List Char} :
    store.text path = .ok t ↔ ∃ s, store.octets path = .ok (s.flatMap String.utf8EncodeChar) ∧
      unifyNewlines s = t := by
  unfold text
  cases store.octets path with
  | error fault =>
    refine iff_of_false (fun h => ?_) fun ⟨s, h, _⟩ => ?_
    · cases h
    · cases h
  | ok octets =>
    simp only [Except.ok.injEq]
    constructor
    · intro h
      cases hdecode : Utf8.decode octets with
      | error fault =>
        rw [hdecode] at h
        cases h
      | ok s =>
        rw [hdecode] at h
        exact ⟨s, Utf8.decode_eq_ok_iff.1 hdecode, Except.ok.inj h⟩
    · rintro ⟨s, hoctets, rfl⟩
      rw [Utf8.decode_eq_ok_iff.2 hoctets]

/-- Octets that are there cannot be read as a text exactly if UTF-8 writes them for none. -/
theorem exists_text_eq_decoding_iff :
    (∃ fault, store.text path = .error (.decoding fault)) ↔
      ∃ octets, store.octets path = .ok octets ∧
        ∀ s : List Char, octets ≠ s.flatMap String.utf8EncodeChar := by
  unfold text
  cases store.octets path with
  | error cause =>
    refine iff_of_false ?_ ?_
    · rintro ⟨fault, h⟩
      cases h
    · rintro ⟨octets, h, -⟩
      cases h
  | ok octets =>
    simp only [Except.ok.injEq, exists_eq_left']
    cases hdecode : Utf8.decode octets with
    | error fault =>
      refine iff_of_true ⟨fault, rfl⟩ fun s hs => ?_
      cases hdecode.symm.trans (Utf8.decode_eq_ok_iff.2 hs)
    | ok s =>
      refine iff_of_false ?_ fun h => h s (Utf8.decode_eq_ok_iff.1 hdecode)
      rintro ⟨fault, h⟩
      cases h

/-- Does reading the document in a file stop before anything can be said about it?  It does at
octets that are no text, and at a limit of the reader. -/
inductive StopsReading (store : FileStore) (path : Path) : Prop
  | octets {octets : List UInt8} (hoctets : store.octets path = .ok octets)
      (hnone : ∀ s : List Char, octets ≠ s.flatMap String.utf8EncodeChar)
  | limit {s : List Char} {passed : Json.Limit}
      (hoctets : store.octets path = .ok (s.flatMap String.utf8EncodeChar))
      (hlimit : Json.readL (unifyNewlines s) = .error (.limit passed))

theorem stopsReading_iff :
    store.StopsReading path ↔ (∃ fault, store.text path = .error (.decoding fault)) ∨
      ∃ t passed, store.text path = .ok t ∧ Json.readL t = .error (.limit passed) := by
  rw [exists_text_eq_decoding_iff]
  constructor
  · rintro (⟨hoctets, hnone⟩ | ⟨hoctets, hlimit⟩)
    · exact .inl ⟨_, hoctets, hnone⟩
    · exact .inr ⟨_, _, text_eq_ok_iff.2 ⟨_, hoctets, rfl⟩, hlimit⟩
  · rintro (⟨octets, hoctets, hnone⟩ | ⟨t, passed, htext, hlimit⟩)
    · exact .octets hoctets hnone
    · obtain ⟨s, hoctets, rfl⟩ := text_eq_ok_iff.1 htext
      exact .limit hoctets hlimit

end FileStore

end InlineReview
