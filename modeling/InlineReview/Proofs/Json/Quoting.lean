import InlineReview.Proofs.Json.Reads

/-!
# Inside and outside of strings

A reader of documents is between strings, in a string, or behind a backslash in one.  A text is
tidy if backticks stand only in strings and newlines only between them.  What the reader reads is
tidy and ends between strings, so that it reads no text that is cut off in one.

* `readsTidy` — what is read is tidy.
* `tidy_of_readL` — a document is tidy and ends between strings.
-/

namespace InlineReview.Json

open InlineReview.Text

/-! ## Tidy texts -/

/-- Where a reader of documents is. -/
inductive Zone where
  | between
  | within
  | escape
  deriving DecidableEq, Repr

/-- Where a character leads, if it may stand here. -/
def Zone.next? : Zone → Char → Option Zone
  | .between, c =>
    if c = '\x60' then none else some (if c = '\x22' then .within else .between)
  | .within, c =>
    if c = '\n' then none
    else some (if c = '\x22' then .between else if c = '\x5c' then .escape else .within)
  | .escape, c => if c = '\n' then none else some .within

/-- Does a text lead from one zone to another, with nothing in it that may not stand there? -/
def Tidy (z : Zone) (s : List Char) (z' : Zone) : Prop := s.foldlM Zone.next? z = some z'

instance (z : Zone) (s : List Char) (z' : Zone) : Decidable (Tidy z s z') :=
  inferInstanceAs (Decidable (s.foldlM Zone.next? z = some z'))

@[simp] theorem tidy_nil {z z' : Zone} : Tidy z [] z' ↔ z = z' := Option.some_inj

@[simp] theorem tidy_cons {z z' : Zone} {c : Char} {s : List Char} :
    Tidy z (c :: s) z' ↔ ∃ y, z.next? c = some y ∧ Tidy y s z' := by
  rw [Tidy, List.foldlM_cons]
  exact Option.bind_eq_some_iff

@[simp] theorem tidy_append {z z' : Zone} {s t : List Char} :
    Tidy z (s ++ t) z' ↔ ∃ y, Tidy z s y ∧ Tidy y t z' := by
  rw [Tidy, List.foldlM_append]
  exact Option.bind_eq_some_iff

/-- A text leads to one zone only. -/
theorem Tidy.unique {z y y' : Zone} {s : List Char} (h : Tidy z s y) (h' : Tidy z s y') :
    y = y' :=
  Option.some_inj.1 (h.symm.trans h')

/-- Is a character neither a quote nor a backtick? -/
def IsMute (c : Char) : Prop := c ≠ '\x22' ∧ c ≠ '\x60'

instance : DecidablePred IsMute := fun c =>
  inferInstanceAs (Decidable (c ≠ '\x22' ∧ c ≠ '\x60'))

theorem Zone.next?_between {c : Char} (h : IsMute c) : Zone.between.next? c = some .between := by
  rw [Zone.next?, if_neg h.2, if_neg h.1]

/-- Between strings, a text without quotes and backticks is tidy. -/
theorem tidy_between {s : List Char} (h : ∀ c ∈ s, IsMute c) : Tidy .between s .between := by
  induction s with
  | nil => rfl
  | cons c s ih =>
    apply tidy_cons.2
    refine ⟨.between, Zone.next?_between (h c (by simp)), ih ?_⟩
    intro d hd
    exact h d (by simp [hd])

/-- In a string, a text without quotes and backslashes stays there if it is tidy. -/
theorem Tidy.within_eq {z : Zone} {s : List Char} (h : Tidy .within s z)
    (hs : ∀ c ∈ s, c ≠ '\x22' ∧ c ≠ '\x5c') : z = .within := by
  induction s with
  | nil => exact (tidy_nil.1 h).symm
  | cons c s ih =>
    obtain ⟨hquote, hslash⟩ := hs c (by simp)
    obtain ⟨y, hy, htail⟩ := tidy_cons.1 h
    rw [Zone.next?, if_neg hquote, if_neg hslash] at hy
    split at hy
    · cases hy
    · obtain rfl := Option.some_inj.1 hy
      apply ih htail
      intro d hd
      exact hs d (by simp [hd])

/-- Is what stands before a rest of a text tidy? -/
def Passes (z : Zone) (s rest : List Char) (z' : Zone) : Prop :=
  ∃ t, s = t ++ rest ∧ Tidy z t z'

namespace Passes

variable {x y z : Zone} {r s t : List Char}

theorem refl (z : Zone) (s : List Char) : Passes z s s z := ⟨[], rfl, tidy_nil.2 rfl⟩

theorem trans (h : Passes x r s y) (h' : Passes y s t z) : Passes x r t z := by
  obtain ⟨u, rfl, hu⟩ := h
  obtain ⟨v, rfl, hv⟩ := h'
  exact ⟨u ++ v, (List.append_assoc u v t).symm, tidy_append.2 ⟨y, hu, hv⟩⟩

theorem cons {c : Char} (hc : x.next? c = some y) (h : Passes y s t z) :
    Passes x (c :: s) t z := by
  obtain ⟨u, rfl, hu⟩ := h
  exact ⟨c :: u, rfl, tidy_cons.2 ⟨y, hc, hu⟩⟩

theorem of_append {u : List Char} (h : ∀ c ∈ u, IsMute c) (hs : s = u ++ t) :
    Passes .between s t .between :=
  ⟨u, hs, tidy_between h⟩

end Passes

/-! ## Numbers, words and spaces -/

theorem passes_dropWhile {p : Char → Bool} (h : ∀ c, p c = true → IsMute c) (s : List Char) :
    Passes .between s (s.dropWhile p) .between := by
  have hmute : ∀ c ∈ s.takeWhile p, IsMute c := by
    intro c hc
    exact h c (List.mem_takeWhile_imp hc)
  exact .of_append hmute List.takeWhile_append_dropWhile.symm

theorem passes_skipSpace (s : List Char) : Passes .between s (skipSpace s) .between := by
  apply passes_dropWhile
  intro c hc
  constructor
  · rintro rfl
    cases hc
  · rintro rfl
    cases hc

/-- After a gap, one character between strings. -/
theorem passes_token {c : Char} {s r : List Char} (h : skipSpace s = c :: r)
    (hc : Zone.between.next? c = some .between) : Passes .between s r .between := by
  have hgap := passes_skipSpace s
  rw [h] at hgap
  exact hgap.trans (.cons hc (.refl _ _))

theorem passes_digits (s : List Char) :
    Passes .between s (s.dropWhile isAsciiDigit) .between := by
  apply passes_dropWhile
  intro c hc
  exact ⟨ne_of_isAsciiDigit hc (by decide), ne_of_isAsciiDigit hc (by decide)⟩

theorem splitWord?_passes {s rest : List Char} {v : Json} (h : splitWord? s = some (v, rest)) :
    Passes .between s rest .between := by
  obtain ⟨⟨w, u⟩, hw, hlead⟩ := List.exists_of_findSome?_eq_some h
  obtain ⟨r, hr, hpair⟩ := Option.map_eq_some_iff.1 hlead
  obtain ⟨-, rfl⟩ := Prod.mk.inj hpair
  have hmute : ∀ p ∈ wordValues, ∀ c ∈ p.1.toList, IsMute c := by simp [wordValues, IsMute]
  exact .of_append (hmute _ hw) (eq_append_of_dropLead? hr)

theorem splitFraction_passes (s : List Char) :
    Passes .between s (splitFraction s).2 .between := by
  unfold splitFraction
  split
  · dsimp only
    split
    · exact .refl _ _
    · exact .cons rfl (passes_digits _)
  · exact .refl _ _

theorem splitSign_passes (s : List Char) :
    Passes .between s (Double.splitSign s).2 .between := by
  unfold Double.splitSign
  split
  · exact .cons rfl (.refl _ _)
  · exact .cons rfl (.refl _ _)
  · exact .refl _ _

theorem splitExponent_passes (s : List Char) :
    Passes .between s (splitExponent s).2 .between := by
  unfold splitExponent
  split
  · rename_i e r
    split
    · rename_i he
      dsimp only
      split
      · exact .refl _ _
      · have hmark : e = 'e' ∨ e = 'E' := by simpa using he
        have hsign := (splitSign_passes r).trans (passes_digits _)
        rcases hmark with rfl | rfl
        · exact .cons rfl hsign
        · exact .cons rfl hsign
    · exact .refl _ _
  · exact .refl _ _

theorem drop_takeWhile_passes (s : List Char) :
    Passes .between s (s.drop (s.takeWhile isAsciiDigit).length) .between := by
  have hdrop : (s.takeWhile isAsciiDigit ++ s.dropWhile isAsciiDigit).drop
      (s.takeWhile isAsciiDigit).length = s.dropWhile isAsciiDigit := List.drop_left
  rw [List.takeWhile_append_dropWhile] at hdrop
  rw [hdrop]
  exact passes_digits s

theorem splitNumber?_passes {s rest : List Char} {token : NumberToken}
    (h : splitNumber? s = some (token, rest)) : Passes .between s rest .between := by
  have hend (r : List Char) :
      Passes .between r (splitExponent (splitFraction r).2).2 .between :=
    (splitFraction_passes r).trans (splitExponent_passes _)
  unfold splitNumber? at h
  dsimp only at h
  generalize hr : Prod.snd (_ : Bool × List Char) = r at h
  have hsign : Passes .between s r .between := by
    rw [← hr]
    split
    · exact .cons rfl (.refl _ _)
    · exact .refl _ _
  split at h
  · obtain ⟨-, rfl⟩ := Prod.mk.inj (Option.some_inj.1 h)
    exact (hsign.trans (.cons rfl (.refl _ _))).trans (hend _)
  split at h
  · cases h
  · obtain ⟨-, rfl⟩ := Prod.mk.inj (Option.some_inj.1 h)
    exact (hsign.trans (drop_takeWhile_passes r)).trans (hend _)

/-! ## Strings -/

theorem next?_of_hexValue? {c : Char} {n : Nat} (h : hexValue? c = some n) :
    Zone.within.next? c = some .within := by
  have hquote : c ≠ '\x22' := by
    rintro rfl
    cases h
  have hslash : c ≠ '\x5c' := by
    rintro rfl
    cases h
  have hnewline : c ≠ '\n' := by
    rintro rfl
    cases h
  rw [Zone.next?, if_neg hnewline, if_neg hquote, if_neg hslash]

/-- Hexadecimal digits are tidy in a string. -/
theorem hexQuad?_tidy {s : List Char} {n : Nat} (h : hexQuad? s = some n) :
    Tidy .within (s.take 4) .within := by
  unfold hexQuad? at h
  split at h
  · rename_i a b c d r
    simp only [Option.bind_eq_bind, Option.bind_eq_some_iff] at h
    obtain ⟨w, hw, x, hx, y, hy, z, hz, -⟩ := h
    simp [next?_of_hexValue? hw, next?_of_hexValue? hx, next?_of_hexValue? hy,
      next?_of_hexValue? hz]
  · cases h

theorem secondHalf_tidy {s : List Char} {m : Nat} (h : secondHalf s = .ok (some m)) :
    Tidy .within (s.take 6) .within := by
  unfold secondHalf at h
  split at h
  · rename_i r
    split at h
    · cases h
    · split at h
      · rename_i n hquad
        simpa [Zone.next?] using hexQuad?_tidy hquad
      · cases h
  · cases h

/-- The characters of an escape are tidy, and lead back into the string. -/
theorem readEscape_tidy {opening size : Nat} {body : List Char} {e : Char}
    (h : readEscape opening body = .ok (e, size)) : Tidy .escape (body.take size) .within := by
  unfold readEscape at h
  split at h
  · cases h
  · rename_i r
    split at h
    · cases h
    · split at h
      · cases h
      · rename_i n hquad
        have hunit : Tidy .escape (('u' :: r).take 5) .within := by
          simpa [Zone.next?] using hexQuad?_tidy hquad
        split at h
        · cases hhalf : secondHalf (r.drop 4) with
          | error stop =>
            rw [hhalf] at h
            cases h
          | ok half =>
            rw [hhalf] at h
            cases half with
            | none =>
              obtain ⟨-, rfl⟩ := Prod.mk.inj (Except.ok.inj h)
              exact hunit
            | some m =>
              obtain ⟨-, rfl⟩ := Prod.mk.inj (Except.ok.inj h)
              have htake : ('u' :: r).take 11 = ('u' :: r).take 5 ++ (r.drop 4).take 6 := by
                rw [List.take_succ_cons, List.take_succ_cons, List.cons_append, ← List.take_add]
              rw [htake]
              exact tidy_append.2 ⟨.within, hunit, secondHalf_tidy hhalf⟩
        · obtain ⟨-, rfl⟩ := Prod.mk.inj (Except.ok.inj h)
          exact hunit
  · rename_i c r hu
    split at h
    · rename_i d hletter
      obtain ⟨-, rfl⟩ := Prod.mk.inj (Except.ok.inj h)
      have hnewline : c ≠ '\n' := by
        rintro rfl
        cases hletter
      simp [Zone.next?, hnewline]
    · cases h

theorem exists_of_map_eq_ok {α β : Type} {x : Except Stop α} {f : α → β} {b : β}
    (h : x.map f = .ok b) : ∃ a, x = .ok a ∧ f a = b := by
  cases x with
  | error stop => cases h
  | ok a => exact ⟨a, rfl, Except.ok.inj h⟩

/-- What stands before the rest of a string that is read leads out of it, behind the characters of
an escape already read. -/
theorem readString_tidy {opening owed : Nat} {s t rest : List Char}
    (h : readString opening owed s = .ok (t, rest)) :
    ∃ u, s = u ++ rest ∧ owed ≤ u.length ∧ Tidy .within (u.drop owed) .between := by
  induction s generalizing owed t with
  | nil => cases owed <;> cases h
  | cons c s ih =>
    cases owed with
    | succ k =>
      rw [readString] at h
      obtain ⟨u, rfl, hk, htidy⟩ := ih h
      exact ⟨c :: u, rfl, Nat.succ_le_succ hk, htidy⟩
    | zero =>
      rw [readString] at h
      by_cases hquote : c = '\x22'
      · rw [if_pos hquote] at h
        obtain ⟨-, rfl⟩ := Prod.mk.inj (Except.ok.inj h)
        exact ⟨[c], rfl, Nat.zero_le _, by simp [Zone.next?, hquote]⟩
      by_cases hslash : c = '\x5c'
      · rw [if_neg hquote, if_pos hslash] at h
        cases hescape : readEscape opening s with
        | error stop =>
          rw [hescape] at h
          cases h
        | ok found =>
          obtain ⟨e, size⟩ := found
          rw [hescape] at h
          obtain ⟨⟨t', rest'⟩, hread, hpair⟩ := exists_of_map_eq_ok h
          obtain ⟨-, rfl⟩ := Prod.mk.inj hpair
          obtain ⟨u, rfl, hsize, htidy⟩ := ih hread
          have hbody := readEscape_tidy hescape
          rw [List.take_append_of_le_length hsize] at hbody
          have hrest : Tidy .escape u .between := by
            rw [← List.take_append_drop size u]
            exact tidy_append.2 ⟨.within, hbody, htidy⟩
          exact ⟨c :: u, rfl, Nat.zero_le _, by simpa [Zone.next?, hslash] using hrest⟩
      rw [if_neg hquote, if_neg hslash] at h
      split at h
      · cases h
      · rename_i hcontrol
        have hnewline : c ≠ '\n' := by
          rintro rfl
          exact hcontrol (by decide)
        obtain ⟨⟨t', rest'⟩, hread, hpair⟩ := exists_of_map_eq_ok h
        obtain ⟨-, rfl⟩ := Prod.mk.inj hpair
        obtain ⟨u, rfl, -, htidy⟩ := ih hread
        exact ⟨c :: u, rfl, Nat.zero_le _, by
          simpa [Zone.next?, hquote, hslash, hnewline] using htidy⟩

theorem readString_passes {opening : Nat} {s t rest : List Char}
    (h : readString opening 0 s = .ok (t, rest)) : Passes .within s rest .between := by
  obtain ⟨u, hs, -, htidy⟩ := readString_tidy h
  exact ⟨u, hs, htidy⟩

/-! ## Values -/

/-- What is read with some steps left is tidy. -/
structure ReadsTidy (fuel : Nat) : Prop where
  value : ∀ {depth : Nat} {s rest : List Char} {v : Json},
    readValue fuel depth s = .ok (v, rest) → Passes .between s rest .between
  elements : ∀ {depth : Nat} {s rest : List Char} {vs : List Json},
    readElements fuel depth s = .ok (vs, rest) → Passes .between s rest .between
  members : ∀ {depth : Nat} {s rest : List Char} {ms : List (String × Json)},
    readMembers fuel depth s = .ok (ms, rest) → Passes .between s rest .between

namespace ReadsTidy

variable {fuel depth : Nat} {s rest : List Char}

theorem readValue_succ (ih : ReadsTidy fuel) {v : Json}
    (h : readValue (fuel + 1) depth s = .ok (v, rest)) : Passes .between s rest .between := by
  unfold readValue at h
  split at h
  · cases h
  rename_i c r
  split at h
  · rename_i hquote
    obtain ⟨⟨t, rest'⟩, hread, hpair⟩ := exists_of_map_eq_ok h
    obtain ⟨-, rfl⟩ := Prod.mk.inj hpair
    exact .cons (by rw [hquote]; rfl) (readString_passes hread)
  split at h
  · rename_i hbrace
    apply Passes.cons (by rw [hbrace]; rfl)
    split at h
    · cases h
    split at h
    · rename_i hclose
      obtain ⟨-, rfl⟩ := Prod.mk.inj (Except.ok.inj h)
      exact passes_token hclose rfl
    · obtain ⟨⟨ms, rest'⟩, hread, hpair⟩ := exists_of_map_eq_ok h
      obtain ⟨-, rfl⟩ := Prod.mk.inj hpair
      exact (passes_skipSpace r).trans (ih.members hread)
  split at h
  · rename_i hbracket
    apply Passes.cons (by rw [hbracket]; rfl)
    split at h
    · cases h
    split at h
    · rename_i hclose
      obtain ⟨-, rfl⟩ := Prod.mk.inj (Except.ok.inj h)
      exact passes_token hclose rfl
    · obtain ⟨⟨vs, rest'⟩, hread, hpair⟩ := exists_of_map_eq_ok h
      obtain ⟨-, rfl⟩ := Prod.mk.inj hpair
      exact (passes_skipSpace r).trans (ih.elements hread)
  split at h
  · rename_i hword
    obtain rfl := Except.ok.inj h
    exact splitWord?_passes hword
  split at h
  · rename_i hnumber
    obtain ⟨w, -, hpair⟩ := exists_of_map_eq_ok h
    obtain ⟨-, rfl⟩ := Prod.mk.inj hpair
    exact splitNumber?_passes hnumber
  · cases h

theorem readElements_succ (ih : ReadsTidy fuel) {vs : List Json}
    (h : readElements (fuel + 1) depth s = .ok (vs, rest)) : Passes .between s rest .between := by
  unfold readElements at h
  split at h
  · cases h
  rename_i v r hvalue
  apply (ih.value hvalue).trans
  split at h
  · rename_i hclose
    obtain ⟨-, rfl⟩ := Prod.mk.inj (Except.ok.inj h)
    exact passes_token hclose rfl
  · rename_i hcomma
    obtain ⟨⟨vs', rest'⟩, hread, hpair⟩ := exists_of_map_eq_ok h
    obtain ⟨-, rfl⟩ := Prod.mk.inj hpair
    exact (passes_token hcomma rfl).trans ((passes_skipSpace _).trans (ih.elements hread))
  · cases h

theorem readMembers_succ (ih : ReadsTidy fuel) {ms : List (String × Json)}
    (h : readMembers (fuel + 1) depth s = .ok (ms, rest)) : Passes .between s rest .between := by
  unfold readMembers at h
  split at h
  · apply Passes.cons rfl
    split at h
    · cases h
    rename_i name r hname
    apply (readString_passes hname).trans
    split at h
    · rename_i hcolon
      apply (passes_token hcolon rfl).trans
      apply (passes_skipSpace _).trans
      split at h
      · cases h
      rename_i v r' hvalue
      apply (ih.value hvalue).trans
      dsimp only at h
      split at h
      · rename_i hclose
        obtain ⟨-, rfl⟩ := Prod.mk.inj (Except.ok.inj h)
        exact passes_token hclose rfl
      · rename_i hcomma
        obtain ⟨⟨ms', rest'⟩, hread, hpair⟩ := exists_of_map_eq_ok h
        obtain ⟨-, rfl⟩ := Prod.mk.inj hpair
        exact (passes_token hcomma rfl).trans ((passes_skipSpace _).trans (ih.members hread))
      · cases h
    · cases h
  · cases h

end ReadsTidy

/-- Whatever is read is tidy. -/
theorem readsTidy (fuel : Nat) : ReadsTidy fuel := by
  induction fuel with
  | zero =>
    constructor
    · intro depth s rest v h
      unfold readValue at h
      cases h
    · intro depth s rest vs h
      unfold readElements at h
      cases h
    · intro depth s rest ms h
      unfold readMembers at h
      cases h
  | succ fuel ih => exact ⟨ih.readValue_succ, ih.readElements_succ, ih.readMembers_succ⟩

/-- A document is a value with nothing but gaps around it. -/
theorem readValue_of_readL {s : List Char} {v : Json} (h : readL s = .ok v) :
    ∃ rest, readValue (2 * s.length + 2) nestingLimit (skipSpace s) = .ok (v, rest) ∧
      skipSpace rest = [] := by
  have hwhole : readWhole s = .ok v := by
    unfold readL at h
    split at h
    · cases h
    · unfold readUnmarked at h
      split at h
      · rename_i hread
        rw [hread, Except.ok.inj h]
      · cases h
  unfold readWhole at hwhole
  split at hwhole
  · cases hwhole
  · rename_i w rest hvalue
    split at hwhole
    · rename_i hend
      obtain rfl := Except.ok.inj hwhole
      exact ⟨rest, hvalue, hend⟩
    · cases hwhole

/-- A document is tidy and ends between strings. -/
theorem tidy_of_readL {s : List Char} {v : Json} (h : readL s = .ok v) :
    Tidy .between s .between := by
  obtain ⟨rest, hvalue, hend⟩ := readValue_of_readL h
  have htail := passes_skipSpace rest
  rw [hend] at htail
  obtain ⟨t, hs, htidy⟩ := (passes_skipSpace s).trans (((readsTidy _).value hvalue).trans htail)
  rw [List.append_nil] at hs
  rw [hs]
  exact htidy

end InlineReview.Json
