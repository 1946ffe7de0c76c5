import InlineReview.Proofs.Decimal.Runs
import InlineReview.Proofs.Text.Trimming

/-!
# The texts of numbers

The text of a number is a sign, which may be left out, and behind it a name or a decimal.  A decimal
has digits before a point or behind it, and perhaps an exponent.

* `Double.Spells` — the texts of numbers, with what they are the texts of.
* `Double.exponent_of_readExponent?`, `Double.Exponent.exists_loosen` — the exponents that are read.
* `Double.readL?_eq_some_iff` — the texts of numbers are the texts that are read.
-/

namespace InlineReview.Double

open Text

/-! ## The language -/

/-- The digits of a decimal before and behind the point: there is one digit at least. -/
inductive Mantissa : List Char → List Nat → List Nat → Prop
  | whole {w : List Char} {ws : List Nat} (hw : IsRun w ws) (hne : ws ≠ []) : Mantissa w ws []
  | pointed {w p : List Char} {ws ps : List Nat} (hw : IsRun w ws) (hp : IsRun p ps)
      (hne : ws ≠ [] ∨ ps ≠ []) : Mantissa (w ++ '.' :: p) ws ps

/-- A sign, and whether it is that of negative numbers. -/
inductive Sign : List Char → Bool → Prop
  | absent : Sign [] false
  | plus : Sign ['+'] false
  | minus : Sign ['-'] true

/-- An exponent with its value. -/
inductive Exponent : List Char → Int → Prop
  | absent : Exponent [] 0
  | marked {e : Char} {g s : List Char} {negative : Bool} {ds : List Nat} (he : e = 'e' ∨ e = 'E')
      (hg : Sign g negative) (hs : IsRun s ds) (hne : ds ≠ []) :
    Exponent (e :: (g ++ s))
      (if negative then -(Numeral.ofDigits ds : Int) else Numeral.ofDigits ds)

/-- The text of a number. -/
inductive Spells : List Char → Double → Prop
  | infinity {g s : List Char} {negative : Bool} (hg : Sign g negative)
      (hs : s.map lowerAscii = "inf".toList ∨ s.map lowerAscii = "infinity".toList) :
    Spells (g ++ s) (.infinite negative)
  | notNumber {g s : List Char} {negative : Bool} (hg : Sign g negative)
      (hs : s.map lowerAscii = "nan".toList) : Spells (g ++ s) .nan
  | decimal {g m x : List Char} {negative : Bool} {ws ps : List Nat} {e : Int}
      (hg : Sign g negative) (hm : Mantissa m ws ps) (hx : Exponent x e) :
    Spells (g ++ (m ++ x)) (ofDecimal negative (Numeral.ofDigits (ws ++ ps)) (e - ps.length))

variable {s r t w x : List Char} {ds : List Nat}

/-! ## Signs -/

/-- Does a text not begin with a sign? -/
def Unsigned (s : List Char) : Prop := ∀ c ∈ s.head?, c ≠ '-' ∧ c ≠ '+'

theorem exists_sign (s : List Char) :
    ∃ g r negative, s = g ++ r ∧ Sign g negative ∧ (g = [] → Unsigned r) := by
  cases s with
  | nil => exact ⟨[], [], false, rfl, .absent, by simp [Unsigned]⟩
  | cons c r =>
    by_cases hminus : c = '-'
    · exact ⟨['-'], r, true, by rw [hminus]; rfl, .minus, by simp⟩
    · by_cases hplus : c = '+'
      · exact ⟨['+'], r, false, by rw [hplus]; rfl, .plus, by simp⟩
      · refine ⟨[], c :: r, false, rfl, .absent, fun _ e he => ?_⟩
        obtain rfl := Option.some.inj he
        exact ⟨hminus, hplus⟩

theorem splitSign_append {g : List Char} {negative : Bool} (hg : Sign g negative)
    (hs : g = [] → Unsigned s) : splitSign (g ++ s) = (negative, s) := by
  cases hg with
  | plus => rfl
  | minus => rfl
  | absent =>
    have hunsigned := hs rfl
    rw [List.nil_append]
    unfold splitSign
    split
    · exact absurd rfl (hunsigned '-' rfl).1
    · exact absurd rfl (hunsigned '+' rfl).2
    · rfl

theorem Sign.asciiDigits_append {g : List Char} {negative : Bool} (hg : Sign g negative)
    (s : List Char) : asciiDigits (g ++ s) = g ++ asciiDigits s := by
  cases hg with
  | absent => rfl
  | plus => exact asciiDigits_other (by decide)
  | minus => exact asciiDigits_other (by decide)

theorem Sign.loosen_append {g : List Char} {negative : Bool} (hg : Sign g negative)
    (s : List Char) : loosen (g ++ s) = (loosen s).map (g ++ ·) := by
  cases hg with
  | absent => simp
  | plus => exact loosen_other (by decide) (by decide)
  | minus => exact loosen_other (by decide) (by decide)

theorem Unsigned.asciiDigits (h : Unsigned s) : Unsigned (asciiDigits s) := by
  cases s with
  | nil => exact h
  | cons c r =>
    cases hc : digitValue? c with
    | none =>
      rw [asciiDigits_other hc]
      exact h
    | some d =>
      rw [asciiDigits_digit hc]
      intro e he
      obtain rfl := Option.some.inj he
      have hdigit := (asciiDigit_spec hc).1
      exact ⟨ne_of_isAsciiDigit hdigit (by decide), ne_of_isAsciiDigit hdigit (by decide)⟩

theorem Unsigned.of_loosen (hs : Unsigned s) (h : loosen s = some t) : Unsigned t := by
  unfold Unsigned
  rw [head?_of_loosen h]
  exact hs.asciiDigits

theorem IsRun.unsigned (h : IsRun w ds) (hne : ds ≠ []) : Unsigned w := by
  cases h with
  | nil => exact absurd rfl hne
  | @digits c d s ds hd h =>
    intro e he
    obtain rfl := Option.some.inj he
    constructor
    · rintro rfl
      cases hd
    · rintro rfl
      cases hd

/-! ## Exponents -/

theorem IsRun.loosen_eq (h : IsRun w ds) : loosen w = some (written ds) :=
  loosen_eq_some_iff.2 ⟨w, ds, [], [], (List.append_nil w).symm, h, by simp [Stops], rfl,
    (List.append_nil _).symm⟩

theorem Exponent.stops {e : Int} (h : Exponent x e) : Stops x := by
  cases h with
  | absent => simp [Stops]
  | marked he =>
    intro c hc
    obtain rfl := Option.some.inj hc
    rcases he with rfl | rfl
    · decide
    · decide

theorem Exponent.head?_ne {e : Int} (h : Exponent x e) : x.head? ≠ some '.' := by
  cases h with
  | absent => simp
  | marked he => rcases he with rfl | rfl <;> simp

/-- What can end a decimal and is read as an exponent is one. -/
theorem exponent_of_readExponent? {u : List Char} {e : Int} (hx : Stops x) (hu : loosen x = some u)
    (he : readExponent? u = some e) : Exponent x e := by
  cases x with
  | nil =>
    obtain rfl := Option.some.inj hu
    obtain rfl := Option.some.inj he
    exact .absent
  | cons c x =>
    obtain ⟨hc, hother⟩ := hx c rfl
    obtain ⟨g, y, negative, rfl, hg, hy⟩ := exists_sign x
    rw [loosen_other hc hother, hg.loosen_append, Option.map_map, Option.map_eq_some_iff] at hu
    obtain ⟨v, hv, rfl⟩ := hu
    have hunsigned : g = [] → Unsigned v := fun hnil => (hy hnil).of_loosen hv
    obtain ⟨w, ds, r, u, rfl, hw, hr, hu, rfl⟩ := loosen_eq_some_iff.1 hv
    change readExponent? (c :: (g ++ (written ds ++ u))) = some e at he
    rw [readExponent?, splitSign_append hg hunsigned] at he
    split at he
    · rename_i hletter
      dsimp only at he
      rw [splitDigits_written hw hr hu] at he
      split at he
      · rename_i d ds' hsplit
        obtain ⟨rfl, rfl⟩ := Prod.mk.inj hsplit
        -- nothing is left behind the digits
        have hnil : r = [] := List.head?_eq_none_iff.1 (hr.head?_of_loosen hu).symm
        rw [hnil, List.append_nil]
        obtain rfl := Option.some.inj he
        exact .marked (by simpa using hletter) hg hw (by simp)
      · cases he
    · cases he

/-- An exponent is read as one. -/
theorem Exponent.exists_loosen {e : Int} (h : Exponent x e) :
    ∃ u, loosen x = some u ∧ readExponent? u = some e := by
  have hstops := h.stops
  cases h with
  | absent => exact ⟨[], rfl, rfl⟩
  | @marked e g s negative ds he hg hs hne =>
    have hother : e ≠ '_' ∧ digitValue? e = none := hstops e rfl
    have hunsigned : g = [] → Unsigned (written ds) :=
      fun _ => (hs.unsigned hne).of_loosen hs.loosen_eq
    have hsplit : splitDigits (written ds) = (ds, []) := by
      have hwhole := splitDigits_written hs (by simp [Stops] : Stops []) rfl
      rwa [List.append_nil] at hwhole
    refine ⟨e :: (g ++ written ds), ?_, ?_⟩
    · rw [loosen_other hother.1 hother.2, hg.loosen_append, hs.loosen_eq]
      rfl
    · obtain ⟨d, ds, rfl⟩ := List.exists_cons_of_ne_nil hne
      rw [readExponent?, splitSign_append hg hunsigned, if_pos (by simpa using he)]
      dsimp only
      rw [hsplit]

/-! ## Decimals -/

/-- Is a text a decimal, and of which value? -/
def IsDecimal (negative : Bool) (s : List Char) (v : Double) : Prop :=
  ∃ m x ws ps e, s = m ++ x ∧ Mantissa m ws ps ∧ Exponent x e ∧
    v = ofDecimal negative (Numeral.ofDigits (ws ++ ps)) (e - ps.length)

/-- The digits behind a point, and what follows them. -/
def afterPoint (s : List Char) : List Nat × List Char :=
  match s with
  | '.' :: r => splitDigits r
  | r => ([], r)

theorem afterPoint_of_ne (h : s.head? ≠ some '.') : afterPoint s = ([], s) := by
  unfold afterPoint
  split
  · exact absurd rfl h
  · rfl

theorem readDecimal?_eq {negative : Bool} {ws ps : List Nat} (hwhole : splitDigits s = (ws, r))
    (hpart : afterPoint r = (ps, t)) : readDecimal? negative s =
      if ws.isEmpty && ps.isEmpty then none
      else (readExponent? t).map fun e =>
        ofDecimal negative (Numeral.ofDigits (ws ++ ps)) (e - ps.length) := by
  have hread : readDecimal? negative s =
      if (splitDigits s).1.isEmpty && (afterPoint (splitDigits s).2).1.isEmpty then none
      else (readExponent? (afterPoint (splitDigits s).2).2).map fun e =>
        ofDecimal negative
          (Numeral.ofDigits ((splitDigits s).1 ++ (afterPoint (splitDigits s).2).1))
          (e - (afterPoint (splitDigits s).2).1.length) := rfl
  rw [hread, hwhole, hpart]

theorem isDecimal_of_readDecimal? {negative : Bool} {v : Double} (h : loosen s = some t)
    (hread : readDecimal? negative t = some v) : IsDecimal negative s v := by
  obtain ⟨w, ws, r, u, rfl, hw, hr, hu, rfl⟩ := loosen_eq_some_iff.1 h
  have hwhole := splitDigits_written hw hr hu
  have hhead := hr.head?_of_loosen hu
  by_cases hpoint : u.head? = some '.'
  · -- behind the point there is a second run
    rw [hpoint] at hhead
    obtain ⟨y, rfl⟩ := List.head?_eq_some_iff.1 hhead.symm
    rw [loosen_other (by decide) (by decide), Option.map_eq_some_iff] at hu
    obtain ⟨v, hv, rfl⟩ := hu
    obtain ⟨p, ps, x, u, rfl, hp, hx, hu, rfl⟩ := loosen_eq_some_iff.1 hv
    rw [readDecimal?_eq hwhole (splitDigits_written hp hx hu)] at hread
    split at hread
    · cases hread
    · rename_i hdigits
      obtain ⟨e, he, rfl⟩ := Option.map_eq_some_iff.1 hread
      have hne : ws ≠ [] ∨ ps ≠ [] := by
        by_cases hws : ws = []
        · right
          simpa [hws] using hdigits
        · exact Or.inl hws
      exact ⟨w ++ '.' :: p, x, ws, ps, e, by simp, .pointed hw hp hne,
        exponent_of_readExponent? hx hu he, rfl⟩
  · rw [readDecimal?_eq hwhole (afterPoint_of_ne hpoint)] at hread
    split at hread
    · cases hread
    · rename_i hdigits
      obtain ⟨e, he, rfl⟩ := Option.map_eq_some_iff.1 hread
      have hne : ws ≠ [] := by simpa using hdigits
      exact ⟨w, r, ws, [], e, rfl, .whole hw hne, exponent_of_readExponent? hr hu he, rfl⟩

theorem readDecimal?_of_isDecimal {negative : Bool} {v : Double} (h : IsDecimal negative s v) :
    ∃ t, loosen s = some t ∧ readDecimal? negative t = some v := by
  obtain ⟨m, x, ws, ps, e, rfl, hm, hx, rfl⟩ := h
  have hstops := hx.stops
  obtain ⟨u, hu, he⟩ := hx.exists_loosen
  cases hm with
  | whole hw hne =>
    have hpoint : u.head? ≠ some '.' := by
      rw [hstops.head?_of_loosen hu]
      exact hx.head?_ne
    refine ⟨written ws ++ u, loosen_eq_some_iff.2 ⟨m, ws, x, u, rfl, hw, hstops, hu, rfl⟩, ?_⟩
    rw [readDecimal?_eq (splitDigits_written hw hstops hu) (afterPoint_of_ne hpoint), he]
    simp [hne]
  | @pointed w p ws ps hw hp hne =>
    have hpart : loosen (p ++ x) = some (written ps ++ u) :=
      loosen_eq_some_iff.2 ⟨p, ps, x, u, rfl, hp, hstops, hu, rfl⟩
    have hpoint : loosen ('.' :: (p ++ x)) = some ('.' :: (written ps ++ u)) := by
      rw [loosen_other (by decide) (by decide), hpart]
      rfl
    have hpointStops : Stops ('.' :: (p ++ x)) := by
      intro c hc
      obtain rfl := Option.some.inj hc
      decide
    refine ⟨written ws ++ '.' :: (written ps ++ u), loosen_eq_some_iff.2
      ⟨w, ws, '.' :: (p ++ x), _, by simp, hw, hpointStops, hpoint, rfl⟩, ?_⟩
    have hdigits : (ws.isEmpty && ps.isEmpty) = false := by
      rcases hne with hne | hne <;> simp [hne]
    rw [readDecimal?_eq (splitDigits_written hw hpointStops hpoint)
      (splitDigits_written hp hstops hu), hdigits, he]
    rfl

/-! ## Names -/

theorem asciiDigits_eq_self (h : ∀ c ∈ s, digitValue? c = none) : asciiDigits s = s := by
  induction s with
  | nil => rfl
  | cons c s ih =>
    obtain ⟨hc, hs⟩ := List.forall_mem_cons.1 h
    rw [asciiDigits_other hc, ih hs]

/-- A name without digits is found in a text whatever script its digits are in. -/
theorem map_lowerAscii_asciiDigits {name : List Char} (hname : ∀ c ∈ name, digitValue? c = none) :
    (asciiDigits s).map lowerAscii = name ↔ s.map lowerAscii = name := by
  have hfree : ∀ r : List Char, r.map lowerAscii = name → ∀ c ∈ r, digitValue? c = none := by
    intro r hr c hc
    cases hdigit : digitValue? c with
    | none => rfl
    | some d =>
      have hmem : lowerAscii c ∈ name := hr ▸ List.mem_map_of_mem hc
      rw [lowerAscii_of_digit hdigit] at hmem
      rw [← hdigit, hname c hmem]
  constructor
  · intro h
    have hs : ∀ c ∈ s, digitValue? c = none := by
      intro c hc
      cases hdigit : digitValue? c with
      | none => rfl
      | some d =>
        have hmem : asciiDigit d ∈ asciiDigits s :=
          List.mem_map.2 ⟨c, hc, by simp [hdigit, asciiDigit]⟩
        have hnone := hfree _ h _ hmem
        rw [digitValue?_of_isAsciiDigit (asciiDigit_spec hdigit).1] at hnone
        cases hnone
    rwa [asciiDigits_eq_self hs] at h
  · intro h
    rwa [asciiDigits_eq_self (hfree s h)]

/-- A decimal begins with a digit or with its point. -/
theorem IsDecimal.exists_head {negative : Bool} {v : Double} (h : IsDecimal negative s v) :
    ∃ c r, s = c :: r ∧ (c = '.' ∨ ∃ d, digitValue? c = some d) := by
  obtain ⟨m, x, ws, ps, e, rfl, hm, -, -⟩ := h
  have hrun : ∀ {w ds}, IsRun w ds → ds ≠ [] → ∀ y, ∃ c r, w ++ y = c :: r ∧
      (c = '.' ∨ ∃ d, digitValue? c = some d) := by
    intro w ds hw hne y
    cases hw with
    | nil => exact absurd rfl hne
    | digits hd hw => exact ⟨_, _, rfl, Or.inr ⟨_, hd⟩⟩
  cases hm with
  | whole hw hne => exact hrun hw hne x
  | @pointed w p ws ps hw hp hne =>
    cases hw with
    | nil => exact ⟨'.', p ++ x, rfl, Or.inl rfl⟩
    | digits hd hw => exact ⟨_, _, rfl, Or.inr ⟨_, hd⟩⟩

theorem IsDecimal.ne_of_head? {negative : Bool} {v : Double} {c e : Char}
    (h : IsDecimal negative s v) (hc : s.head? = some c) (hpoint : e ≠ '.')
    (hother : digitValue? e = none) : c ≠ e := by
  obtain ⟨f, r, rfl, hf⟩ := h.exists_head
  obtain rfl := Option.some.inj hc
  rintro rfl
  rcases hf with rfl | ⟨d, hd⟩
  · exact hpoint rfl
  · rw [hother] at hd
    cases hd

/-! ## Numbers -/

/-- The names of infinity and of what is no number. -/
def names : List (List Char) := ["inf".toList, "infinity".toList, "nan".toList]

theorem digitValue?_of_mem_names {name : List Char} (h : name ∈ names) :
    ∀ c ∈ name, digitValue? c = none := by
  have hall : (names.all fun name => name.all fun c => (digitValue? c).isNone) = true := by decide
  simpa only [List.all_eq_true, Option.isNone_iff_eq_none] using List.all_eq_true.1 hall name h

theorem IsDecimal.not_name {negative : Bool} {v : Double} (h : IsDecimal negative s v) :
    s.map lowerAscii ∉ names := by
  obtain ⟨c, r, rfl, hc⟩ := h.exists_head
  have hlower : lowerAscii c = c := by
    rcases hc with rfl | ⟨d, hd⟩
    · decide
    · exact lowerAscii_of_digit hd
  have hi : c ≠ 'i' := h.ne_of_head? rfl (by decide) (by decide)
  have hn : c ≠ 'n' := h.ne_of_head? rfl (by decide) (by decide)
  simp [names, hlower, hi, hn]

theorem IsDecimal.unsigned {negative : Bool} {v : Double} (h : IsDecimal negative s v) :
    Unsigned s :=
  fun _ hc => ⟨h.ne_of_head? hc (by decide) (by decide), h.ne_of_head? hc (by decide) (by decide)⟩

theorem Unsigned.of_map_lowerAscii (h : Unsigned (s.map lowerAscii)) : Unsigned s := by
  intro c hc
  obtain ⟨r, rfl⟩ := List.head?_eq_some_iff.1 hc
  have hlower := h (lowerAscii c) rfl
  constructor
  · rintro rfl
    exact hlower.1 rfl
  · rintro rfl
    exact hlower.2 rfl

theorem Unsigned.of_name {name : List Char} (h : s.map lowerAscii = name) (hname : name ∈ names) :
    Unsigned s := by
  apply Unsigned.of_map_lowerAscii
  rw [h]
  simp only [names, List.mem_cons, List.not_mem_nil, or_false] at hname
  rcases hname with rfl | rfl | rfl <;> simp [Unsigned]

/-- A number is read by what stands behind its sign. -/
theorem readL?_eq {g : List Char} {negative : Bool} (hs : trimL s = g ++ r) (hg : Sign g negative)
    (hr : g = [] → Unsigned r) : readL? s =
      if r.map lowerAscii = "inf".toList ∨ r.map lowerAscii = "infinity".toList then
        some (.infinite negative)
      else if r.map lowerAscii = "nan".toList then some .nan
      else (loosen r).bind (readDecimal? negative) := by
  have hname : ∀ name : String, name.toList ∈ names →
      (String.ofList ((asciiDigits r).map lowerAscii) = name ↔ r.map lowerAscii = name.toList) := by
    intro name hmem
    rw [← String.toList_inj, String.toList_ofList]
    exact map_lowerAscii_asciiDigits (digitValue?_of_mem_names hmem)
  have hinf := hname "inf" (by simp [names])
  have hinfinity := hname "infinity" (by simp [names])
  have hnan := hname "nan" (by simp [names])
  have hsplit : splitSign (g ++ asciiDigits r) = (negative, asciiDigits r) :=
    splitSign_append hg fun hnil => (hr hnil).asciiDigits
  rw [readL?, hs, hg.asciiDigits_append, hsplit]
  dsimp only
  split
  · rename_i h
    rw [if_pos (Or.inl (hinf.1 h))]
  · rename_i h
    rw [if_pos (Or.inr (hinfinity.1 h))]
  · rename_i h
    have hother : ¬ (r.map lowerAscii = "inf".toList ∨ r.map lowerAscii = "infinity".toList) := by
      rw [hnan.1 h]
      decide
    rw [if_neg hother, if_pos (hnan.1 h)]
  · rename_i hnotInf hnotInfinity hnotNan
    rw [if_neg, if_neg]
    · rfl
    · exact fun h => hnotNan (hnan.2 h)
    · rintro (h | h)
      · exact hnotInf (hinf.2 h)
      · exact hnotInfinity (hinfinity.2 h)

/-- The texts of numbers are the texts that are read. -/
theorem readL?_eq_some_iff {v : Double} : readL? s = some v ↔ Spells (trimL s) v := by
  constructor
  · intro h
    obtain ⟨g, r, negative, hs, hg, hr⟩ := exists_sign (trimL s)
    rw [readL?_eq hs hg hr] at h
    rw [hs]
    split at h
    · rename_i hname
      obtain rfl := Option.some.inj h
      exact .infinity hg hname
    · split at h
      · rename_i hname
        obtain rfl := Option.some.inj h
        exact .notNumber hg hname
      · obtain ⟨t, ht, hread⟩ := Option.bind_eq_some_iff.1 h
        obtain ⟨m, x, ws, ps, e, rfl, hm, hx, rfl⟩ := isDecimal_of_readDecimal? ht hread
        exact .decimal hg hm hx
  · intro h
    generalize hs : trimL s = body at h
    cases h with
    | infinity hg hname =>
      have hr := hname.elim (fun h => Unsigned.of_name h (by simp [names]))
        fun h => Unsigned.of_name h (by simp [names])
      rw [readL?_eq hs hg fun _ => hr, if_pos hname]
    | @notNumber g r negative hg hname =>
      have hother : ¬ (r.map lowerAscii = "inf".toList ∨ r.map lowerAscii = "infinity".toList) := by
        rw [hname]
        decide
      have hr := Unsigned.of_name hname (by simp [names])
      rw [readL?_eq hs hg fun _ => hr, if_neg hother, if_pos hname]
    | @decimal g m x negative ws ps e hg hm hx =>
      have hdecimal : IsDecimal negative (m ++ x)
          (ofDecimal negative (Numeral.ofDigits (ws ++ ps)) (e - ps.length)) :=
        ⟨m, x, ws, ps, e, rfl, hm, hx, rfl⟩
      obtain ⟨t, ht, hread⟩ := readDecimal?_of_isDecimal hdecimal
      have hname := hdecimal.not_name
      simp only [names, List.mem_cons, List.not_mem_nil, or_false, not_or] at hname
      rw [readL?_eq hs hg fun _ => hdecimal.unsigned, if_neg (not_or.2 ⟨hname.1, hname.2.1⟩),
        if_neg hname.2.2, ht, Option.bind_some, hread]

/-- The texts of numbers without blanks at their ends. -/
theorem read?_eq_some_iff {text : String} {v : Double} (h : IsTrimmed text.toList) :
    read? text = some v ↔ Spells text.toList v := by
  rw [read?, readL?_eq_some_iff, h.trimL_eq]

theorem read?_eq_none_iff {text : String} (h : IsTrimmed text.toList) :
    read? text = none ↔ ∀ v, ¬ Spells text.toList v := by
  rw [Option.eq_none_iff_forall_ne_some]
  exact forall_congr' fun v => not_congr (read?_eq_some_iff h)

end InlineReview.Double
