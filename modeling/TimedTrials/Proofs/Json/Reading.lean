/-
  TimedTrials/Proofs/Json/Reading.lean
  ====================================
  **The reader accepts all that is JSON.**

  One lemma for each kind of token says that the reader takes just the token from a text that
  goes on behind it. What goes on must not continue the token, which only matters for numerals:
  behind a value stand the end, a comma, a bracket or a blank (`Ends`). Put together by the rules
  of the grammar, they give that a text is read as the value it denotes (`Denotes.read?_eq`).
-/
import Mathlib.Data.List.TakeWhile
import TimedTrials.Proofs.Json.Grammar

namespace TimedTrials

open Json (separated)

theorem AreDigits.isEmpty_eq_false {ds : List Char} (h : AreDigits ds) : ds.isEmpty = false :=
  List.isEmpty_eq_false_iff.mpr h.1

namespace Json.Reader

/-! ### Numerals -/

/-- A text that does not go on a numeral. -/
def Ends (rest : List Char) : Prop :=
  ∀ c ∈ rest.head?, c.isDigit = false ∧ c ≠ '.' ∧ c ≠ 'e' ∧ c ≠ 'E'

variable {cs ds rest : List Char}

theorem digits_append (hds : ∀ c ∈ ds, c.isDigit = true)
    (hrest : ∀ c ∈ rest.head?, c.isDigit = false) : digits (ds ++ rest) = (ds, rest) := by
  have htake : rest.takeWhile Char.isDigit = [] ∧ rest.dropWhile Char.isDigit = rest := by
    cases rest with
    | nil => exact ⟨rfl, rfl⟩
    | cons c rest =>
      have hc := hrest c rfl
      simp [hc]
  rw [digits, List.takeWhile_append_of_pos hds, List.dropWhile_append_of_pos hds, htake.1, htake.2,
    List.append_nil]

theorem digits_of_areDigits (h : AreDigits ds) (hrest : Ends rest) :
    digits (ds ++ rest) = (ds, rest) :=
  digits_append h.2 fun c hc => (hrest c hc).1

/-- A digit is none of the other characters. -/
theorem isDigit_ne {c d : Char} (h : c.isDigit = true) (hd : d.isDigit = false) : c ≠ d := by
  rintro rfl
  cases h.symm.trans hd

theorem exponent?_append {e : Option (Bool × List Char)} (h : SpellsExponent cs e)
    (hrest : Ends rest) : exponent? (cs ++ rest) = some (e, rest) := by
  cases h with
  | absent =>
    cases rest with
    | nil => rfl
    | cons c rest =>
      obtain ⟨_, _, he, hE⟩ := hrest c rfl
      simp [exponent?, he, hE]
  | @unsigned letter ds he hds =>
    obtain ⟨d, ds, rfl⟩ := List.exists_cons_of_ne_nil hds.1
    have hd : d.isDigit = true := hds.2 d List.mem_cons_self
    have hplus : d ≠ '+' := isDigit_ne hd (by decide)
    have hminus : d ≠ '-' := isDigit_ne hd (by decide)
    have hdigits := digits_of_areDigits hds hrest
    rw [List.cons_append] at hdigits
    rcases he with rfl | rfl <;> simp [exponent?, hplus, hminus, hdigits]
  | @positive letter ds he hds =>
    have hdigits := digits_of_areDigits hds hrest
    rcases he with rfl | rfl <;> simp [exponent?, hdigits, hds.isEmpty_eq_false]
  | @negative letter ds he hds =>
    have hdigits := digits_of_areDigits hds hrest
    rcases he with rfl | rfl <;> simp [exponent?, hdigits, hds.isEmpty_eq_false]

/-- What may stand behind the whole part: nothing that is read as part of it. -/
theorem head_of_spellsExponent {e : Option (Bool × List Char)} (h : SpellsExponent cs e)
    (hrest : Ends rest) : ∀ c ∈ (cs ++ rest).head?, c.isDigit = false ∧ c ≠ '.' := by
  have hletter : ∀ letter : Char, letter = 'e' ∨ letter = 'E' →
      letter.isDigit = false ∧ letter ≠ '.' := by
    rintro letter (rfl | rfl) <;> decide
  cases h with
  | absent => exact fun c hc => ⟨(hrest c hc).1, (hrest c hc).2.1⟩
  | unsigned he => exact fun c hc => Option.some.inj hc ▸ hletter _ he
  | positive he => exact fun c hc => Option.some.inj hc ▸ hletter _ he
  | negative he => exact fun c hc => Option.some.inj hc ▸ hletter _ he

theorem fraction?_append {fraction : Option (List Char)} (h : SpellsFraction cs fraction)
    (hrest : ∀ c ∈ rest.head?, c.isDigit = false ∧ c ≠ '.') :
    fraction? (cs ++ rest) = some (fraction, rest) := by
  cases h with
  | absent =>
    cases rest with
    | nil => rfl
    | cons c rest =>
      have hpoint := (hrest c rfl).2
      simp [fraction?, hpoint]
  | present hds =>
    have hdigits := digits_append hds.2 fun c hc => (hrest c hc).1
    simp [fraction?, hdigits, hds.isEmpty_eq_false]

theorem head_of_spellsFraction {fraction : Option (List Char)} (h : SpellsFraction cs fraction)
    (hrest : ∀ c ∈ rest.head?, c.isDigit = false) :
    ∀ c ∈ (cs ++ rest).head?, c.isDigit = false := by
  cases h with
  | absent => exact hrest
  | present =>
    intro c hc
    obtain rfl := Option.some.inj hc
    rfl

theorem whole_accepted (h : IsWhole ds) :
    (ds.isEmpty || (ds.length > 1 && ds.head? = some '0')) = false := by
  rw [h.1.isEmpty_eq_false, Bool.false_or, Bool.and_eq_false_iff]
  by_cases hzero : ds.head? = some '0'
  · left
    rw [h.2 hzero]
    rfl
  · right
    simpa using hzero

/-- A numeral behind its sign. -/
def unsigned? (negative : Bool) (cs : List Char) : Option (Numeral × List Char) := do
  let (whole, cs) := digits cs
  if whole.isEmpty || (whole.length > 1 && whole.head? = some '0') then none
  let (fraction, cs) ← fraction? cs
  let (exponent, cs) ← exponent? cs
  pure (⟨negative, whole, fraction, exponent⟩, cs)

theorem numeral?_of_head {c : Char} (hc : c ≠ '-') (cs : List Char) :
    numeral? (c :: cs) = unsigned? false (c :: cs) := by
  simp [numeral?, unsigned?, hc]

theorem numeral?_append {n : Numeral} (h : SpellsNumeral cs n) (hrest : Ends rest) :
    numeral? (cs ++ rest) = some (n, rest) := by
  cases h with
  | @parts negative whole fractionText exponentText fraction exponent hwhole hfraction hexponent =>
    have hafter := head_of_spellsExponent hexponent hrest
    have hdigits := digits_append hwhole.1.2
      (head_of_spellsFraction hfraction fun c hc => (hafter c hc).1)
    have hunsigned : unsigned? negative (whole ++ (fractionText ++ (exponentText ++ rest))) =
        some (⟨negative, whole, fraction, exponent⟩, rest) := by
      simp only [unsigned?, hdigits, whole_accepted hwhole, Bool.false_eq_true, if_false,
        fraction?_append hfraction hafter, exponent?_append hexponent hrest,
        Option.bind_eq_bind, Option.bind_some]
      rfl
    simp only [List.append_assoc]
    cases negative with
    | true => exact hunsigned
    | false =>
      obtain ⟨d, ds, rfl⟩ := List.exists_cons_of_ne_nil hwhole.1.1
      have hd : d.isDigit = true := hwhole.1.2 d List.mem_cons_self
      exact (numeral?_of_head (isDigit_ne hd (by decide)) _).trans hunsigned

/-! ### Strings -/

theorem textOf?_cons_scalar {n : Nat} {c : Char} {points : List Nat} (hc : scalar? n = some c)
    (hpoints : textOf? points = some cs) : textOf? (n :: points) = some (c :: cs) := by
  cases points with
  | nil =>
    obtain rfl := Option.some.inj hpoints
    simp [textOf?, hc]
  | cons m points =>
    have hpair : pair? n m = none := by
      unfold scalar? at hc
      split at hc
      · cases hc
      · unfold pair?
        rw [if_neg]
        omega
    simp [textOf?, hpair, hc, hpoints]

theorem textOf?_cons_pair {high low : Nat} {c : Char} {points : List Nat}
    (hc : pair? high low = some c) (hpoints : textOf? points = some cs) :
    textOf? (high :: low :: points) = some (c :: cs) := by
  simp [textOf?, hc, hpoints]

theorem scalar?_toNat (c : Char) : scalar? c.toNat = some c := by
  have hvalid := c.valid
  unfold scalar?
  rw [if_neg, Char.ofNat_toNat]
  simp only [UInt32.isValidChar, Nat.isValidChar] at hvalid
  have hval : c.toNat = c.val.toNat := rfl
  omega

/-- A string is read up to its closing quote, and its code points have its text. -/
theorem stringRest_append {written text : List Char} (h : Spells written text)
    (rest : List Char) : ∃ points, stringRest (written ++ '"' :: rest) = some (points, rest) ∧
      textOf? points = some text := by
  induction h with
  | nil => exact ⟨[], by simp [stringRest], rfl⟩
  | @plain c written text hc _ ih =>
    obtain ⟨points, hread, htext⟩ := ih
    refine ⟨c.toNat :: points, ?_, textOf?_cons_scalar (scalar?_toNat c) htext⟩
    obtain ⟨hcontrol, hquote, hslash⟩ := hc
    simp [stringRest, hslash, Nat.not_lt.mpr hcontrol, hread]
  | @short letter c written text hc _ ih =>
    obtain ⟨points, hread, htext⟩ := ih
    refine ⟨c.toNat :: points, ?_, textOf?_cons_scalar (scalar?_toNat c) htext⟩
    have hletter : letter ≠ 'u' := by
      rintro rfl
      cases hc
    simp [stringRest, hletter, hc, hread]
  | @unit h₁ h₂ h₃ h₄ c n written text hn hc _ ih =>
    obtain ⟨points, hread, htext⟩ := ih
    refine ⟨n :: points, ?_, textOf?_cons_scalar hc htext⟩
    simp [stringRest, hn, hread]
  | @pair h₁ h₂ h₃ h₄ l₁ l₂ l₃ l₄ c high low written text hhigh hlow hc _ ih =>
    obtain ⟨points, hread, htext⟩ := ih
    refine ⟨high :: low :: points, ?_, textOf?_cons_pair hc htext⟩
    simp [stringRest, hhigh, hlow, hread]

/-! ### Blanks -/

theorem skip_cons {c : Char} (hc : isSpace c = true) (cs : List Char) : skip (c :: cs) = skip cs := by
  simp [skip, hc]

theorem skip_of_head {c : Char} (hc : isSpace c = false) (cs : List Char) :
    skip (c :: cs) = c :: cs := by
  simp [skip, hc]

theorem skip_append {spaces : List Char} (h : AreSpaces spaces) (cs : List Char) :
    skip (spaces ++ cs) = skip cs := by
  rw [skip, List.dropWhile_append_of_pos h, skip]

theorem skip_skip (cs : List Char) : skip (skip cs) = skip cs := by
  induction cs with
  | nil => rfl
  | cons c cs ih =>
    cases hc : isSpace c with
    | true => rw [skip_cons hc, ih]
    | false => rw [skip_of_head hc, skip_of_head hc]

theorem ends_cons_space {c : Char} (hc : isSpace c = true) (cs : List Char) : Ends (c :: cs) := by
  intro d hd
  obtain rfl := Option.some.inj hd
  simp only [isSpace, Bool.or_eq_true, decide_eq_true_eq] at hc
  rcases hc with ((rfl | rfl) | rfl) | rfl <;> decide

/-- Blanks in front of a value do not matter to it. -/
theorem value_congr {cs ds : List Char} (h : skip cs = skip ds) (fuel : Nat) :
    value fuel cs = value fuel ds := by
  cases fuel with
  | zero => rfl
  | succ fuel => simp only [value, h]

theorem items_congr {cs ds : List Char} (h : skip cs = skip ds) (fuel : Nat) :
    items fuel cs = items fuel ds := by
  cases fuel with
  | zero => rfl
  | succ fuel => simp only [items, value_congr h]

theorem fields_congr {cs ds : List Char} (h : skip cs = skip ds) (fuel : Nat) :
    fields fuel cs = fields fuel ds := by
  cases fuel with
  | zero => rfl
  | succ fuel => simp only [fields, h]

/-! ### Plain values -/

/-- A text is read as a value, whatever stands behind it and does not continue it. -/
def ReadsAs (cs : List Char) (v : Json) : Prop :=
  ∀ (fuel : Nat) (rest : List Char), cs.length < fuel → Ends rest →
    ∃ rest', value fuel (cs ++ rest) = some (v, rest') ∧ skip rest' = skip rest

theorem readsAs_of_value {v : Json} (h : ∀ (fuel : Nat) (rest : List Char),
    cs.length < fuel + 1 → Ends rest → value (fuel + 1) (cs ++ rest) = some (v, rest)) :
    ReadsAs cs v := by
  intro fuel rest hfuel hrest
  obtain ⟨fuel, rfl⟩ : ∃ n, fuel = n + 1 := ⟨fuel - 1, by omega⟩
  exact ⟨rest, h fuel rest hfuel hrest, rfl⟩

theorem word?_append (w : String) (v : Json) (rest : List Char) :
    word? w v (w.toList ++ rest) = some (v, rest) := by
  simp [word?, ← String.length_toList]

theorem value_num {n : Numeral} (h : SpellsNumeral cs n) (hrest : Ends rest) (fuel : Nat) :
    value (fuel + 1) (cs ++ rest) = some (.num n, rest) := by
  have hnumeral := numeral?_append h hrest
  obtain ⟨c, ds, rfl, hc⟩ : ∃ c ds, cs = c :: ds ∧ (c = '-' ∨ c.isDigit = true) := by
    cases h with
    | @parts negative whole _ _ _ _ hwhole _ _ =>
      obtain ⟨d, ds, rfl⟩ := List.exists_cons_of_ne_nil hwhole.1.1
      cases negative with
      | true => exact ⟨'-', _, rfl, Or.inl rfl⟩
      | false => exact ⟨d, _, rfl, Or.inr (hwhole.1.2 d List.mem_cons_self)⟩
  have hother : ∀ d : Char, d ≠ '-' → d.isDigit = false → c ≠ d := by
    rintro d hminus hdigit rfl
    rcases hc with hc | hc
    · exact hminus hc
    · cases hc.symm.trans hdigit
  have hspace : isSpace c = false := by
    simp only [isSpace, Bool.or_eq_false_iff, decide_eq_false_iff_not]
    exact ⟨⟨⟨hother ' ' (by decide) (by decide), hother '\n' (by decide) (by decide)⟩,
      hother '\t' (by decide) (by decide)⟩, hother '\r' (by decide) (by decide)⟩
  -- what begins like a numeral begins like no other value
  rw [List.cons_append] at hnumeral ⊢
  simp only [value, skip_of_head hspace]
  split
  · rename_i heq
    exact absurd (List.cons.inj heq).1 (hother '"' (by decide) (by decide))
  · rename_i heq
    exact absurd (List.cons.inj heq).1 (hother '[' (by decide) (by decide))
  · rename_i heq
    exact absurd (List.cons.inj heq).1 (hother '\x7b' (by decide) (by decide))
  · rename_i heq
    exact absurd (List.cons.inj heq).1 (hother 'n' (by decide) (by decide))
  · rename_i heq
    exact absurd (List.cons.inj heq).1 (hother 't' (by decide) (by decide))
  · rename_i heq
    exact absurd (List.cons.inj heq).1 (hother 'f' (by decide) (by decide))
  · rw [hnumeral]
    rfl

theorem value_str {written text : List Char} (h : Spells written text) (rest : List Char)
    (fuel : Nat) : value (fuel + 1) ('"' :: (written ++ ['"']) ++ rest) =
      some (.str (String.ofList text), rest) := by
  obtain ⟨points, hread, htext⟩ := stringRest_append h rest
  have hskip : skip ('"' :: (written ++ '"' :: rest)) = '"' :: (written ++ '"' :: rest) :=
    skip_of_head (by decide) _
  simp [value, hskip, hread, string, text?, htext]

/-- No value begins with a closing bracket. -/
theorem value_of_bracket (h : skip cs = ']' :: rest) (fuel : Nat) : value fuel cs = none := by
  cases fuel with
  | zero => rfl
  | succ fuel => simp [value, h, numeral?, digits, fraction?]

/-! ### Lists -/

theorem ends_cons {c : Char} (hdigit : c.isDigit = false) (hpoint : c ≠ '.') (he : c ≠ 'e')
    (hE : c ≠ 'E') (cs : List Char) : Ends (c :: cs) := by
  intro d hd
  obtain rfl := Option.some.inj hd
  exact ⟨hdigit, hpoint, he, hE⟩

theorem separated_cons_cons (x y : List Char) (rest : List (List Char)) :
    separated [','] (x :: y :: rest) = x ++ ',' :: separated [','] (y :: rest) := by
  simp [separated]

/-- Items are read one after the other, each with a comma or the closing bracket behind it. -/
theorem items_append {list : List Item} (hne : list ≠ [])
    (h : ∀ item ∈ list, ReadsAs item.text item.value) {fuel : Nat} (rest : List Char)
    (hfuel : (separated [','] (list.map (·.text))).length + 1 < fuel) :
    items fuel (separated [','] (list.map (·.text)) ++ ']' :: rest) =
      some (list.map (·.value), rest) := by
  induction list generalizing fuel with
  | nil => exact absurd rfl hne
  | cons item list ih =>
    rw [List.forall_mem_cons] at h
    obtain ⟨fuel, rfl⟩ : ∃ n, fuel = n + 1 := ⟨fuel - 1, by omega⟩
    cases list with
    | nil =>
      have hends : Ends (']' :: rest) :=
        ends_cons (by decide) (by decide) (by decide) (by decide) rest
      obtain ⟨after, hvalue, hskip⟩ := h.1 fuel (']' :: rest) (by simpa [separated] using hfuel) hends
      rw [skip_of_head (by decide)] at hskip
      simp [items, separated, hvalue, hskip]
    | cons next list =>
      simp only [List.map_cons, separated_cons_cons, List.length_append, List.length_cons] at hfuel
      have hends : ∀ cs, Ends (',' :: cs) :=
        ends_cons (by decide) (by decide) (by decide) (by decide)
      have hshorter : (separated [','] ((next :: list).map (·.text))).length + 1 < fuel := by
        rw [List.map_cons]
        omega
      have hrest := ih (List.cons_ne_nil _ _) h.2 hshorter
      obtain ⟨after, hvalue, hskip⟩ := h.1 fuel
        (',' :: (separated [','] ((next :: list).map (·.text)) ++ ']' :: rest)) (by omega) (hends _)
      rw [skip_of_head (by decide)] at hskip
      rw [List.map_cons, List.map_cons, separated_cons_cons, ← List.map_cons, List.append_assoc,
        List.cons_append, items]
      simp only [hvalue, Option.bind_eq_bind, Option.bind_some, hskip, hrest]
      rfl

theorem items_of_bracket {cs rest : List Char} (h : skip cs = ']' :: rest) (fuel : Nat) :
    items fuel cs = none := by
  cases fuel with
  | zero => rfl
  | succ fuel => simp [items, value_of_bracket h]

theorem value_arr {fuel : Nat} {cs rest : List Char} {values : List Json}
    (h : items fuel cs = some (values, rest)) :
    value (fuel + 1) ('[' :: cs) = some (.arr values, rest) := by
  simp only [value, skip_of_head (show isSpace '[' = false by decide)]
  split
  · rename_i hclose
    cases (items_of_bracket hclose fuel).symm.trans h
  · rw [items_congr (skip_skip cs), h]
    rfl

/-! ### Objects -/

/-- A name is read with the blanks in front of it; those behind it are left. -/
theorem exists_name {cs : List Char} {name : String} (h : SpellsName cs name) (rest : List Char) :
    ∃ inner points after, skip (cs ++ rest) = '"' :: inner ∧
      stringRest inner = some (points, after) ∧ skip after = skip rest ∧
      text? points = some name := by
  cases h with
  | @quoted lead written text tail hlead hwritten htail =>
    obtain ⟨points, hread, htext⟩ := stringRest_append hwritten (tail ++ rest)
    refine ⟨written ++ '"' :: (tail ++ rest), points, tail ++ rest, ?_, hread,
      skip_append htail rest, ?_⟩
    · simp only [List.append_assoc, List.cons_append]
      rw [skip_append hlead, skip_of_head (by decide)]
    · rw [text?, htext]
      rfl

theorem object_of_names (members : List (String × Json)) :
    object (members.map fun m => (some m.1, m.2)) = .obj members := by
  have hmap : (members.map fun m => (some m.1, m.2)).mapM
      (fun f : Option String × Json => f.1.map fun name => (name, f.2)) = some members := by
    induction members with
    | nil => rfl
    | cons m members ih => rw [List.map_cons, List.mapM_cons, ih]; rfl
  rw [object, hmap]

/-- Fields are read one after the other, each with a comma or the closing brace behind it. -/
theorem fields_append {list : List Member} (hne : list ≠ [])
    (hnames : ∀ m ∈ list, SpellsName m.nameText m.name)
    (h : ∀ m ∈ list, ReadsAs m.text m.value) {fuel : Nat} (rest : List Char)
    (hfuel : (separated [','] (list.map Member.written)).length + 1 < fuel) :
    fields fuel (separated [','] (list.map Member.written) ++ '\x7d' :: rest) =
      some (list.map fun m => (some m.name, m.value), rest) := by
  induction list generalizing fuel with
  | nil => exact absurd rfl hne
  | cons m list ih =>
    rw [List.forall_mem_cons] at h hnames
    obtain ⟨fuel, rfl⟩ : ∃ n, fuel = n + 1 := ⟨fuel - 1, by omega⟩
    have hcolon : ∀ cs, skip (':' :: cs) = ':' :: cs := skip_of_head (by decide)
    cases list with
    | nil =>
      have hends : Ends ('\x7d' :: rest) :=
        ends_cons (by decide) (by decide) (by decide) (by decide) rest
      obtain ⟨after, hvalue, hskip⟩ := h.1 fuel ('\x7d' :: rest) (by
        simp only [List.map_cons, List.map_nil, separated, Member.written, List.length_append,
          List.length_cons] at hfuel
        omega) hends
      rw [skip_of_head (by decide)] at hskip
      obtain ⟨inner, points, behind, hopen, hread, hbehind, hname⟩ :=
        exists_name hnames.1 (':' :: (m.text ++ '\x7d' :: rest))
      rw [hcolon] at hbehind
      simp [fields, separated, Member.written, hopen, hread, hbehind, hvalue, hskip, hname]
    | cons next list =>
      simp only [List.map_cons, separated_cons_cons, List.length_append, List.length_cons,
        Member.written] at hfuel
      have hends : ∀ cs, Ends (',' :: cs) :=
        ends_cons (by decide) (by decide) (by decide) (by decide)
      have hshorter : (separated [','] ((next :: list).map Member.written)).length + 1 < fuel := by
        rw [List.map_cons, Member.written]
        omega
      have hrest := ih (List.cons_ne_nil _ _) hnames.2 h.2 hshorter
      obtain ⟨after, hvalue, hskip⟩ := h.1 fuel
        (',' :: (separated [','] ((next :: list).map Member.written) ++ '\x7d' :: rest)) (by omega)
        (hends _)
      rw [skip_of_head (by decide)] at hskip
      obtain ⟨inner, points, behind, hopen, hread, hbehind, hname⟩ := exists_name hnames.1
        (':' :: (m.text ++ ',' :: (separated [','] ((next :: list).map Member.written) ++
          '\x7d' :: rest)))
      rw [hcolon] at hbehind
      have hwritten : separated [','] ((m :: next :: list).map Member.written) ++ '\x7d' :: rest =
          m.nameText ++ ':' :: (m.text ++ ',' ::
            (separated [','] ((next :: list).map Member.written) ++ '\x7d' :: rest)) := by
        simp [separated_cons_cons, Member.written]
      rw [hwritten, fields]
      simp only [hopen, hread, Option.bind_eq_bind, Option.bind_some, hbehind, hvalue, hskip, hrest,
        hname]
      rfl

theorem fields_of_brace {cs rest : List Char} (h : skip cs = '\x7d' :: rest) (fuel : Nat) :
    fields fuel cs = none := by
  cases fuel with
  | zero => rfl
  | succ fuel => simp [fields, h]

theorem value_obj {fuel : Nat} {cs rest : List Char} {members : List (String × Json)}
    (h : fields fuel cs = some (members.map fun m => (some m.1, m.2), rest)) :
    value (fuel + 1) ('\x7b' :: cs) = some (.obj members, rest) := by
  simp only [value, skip_of_head (show isSpace '\x7b' = false by decide)]
  split
  · rename_i hclose
    cases (fields_of_brace hclose fuel).symm.trans h
  · rw [fields_congr (skip_skip cs), h, Option.map_some, object_of_names]

end Json.Reader

/-! ### All of the grammar -/

namespace Json

open Reader

/-- **A text that denotes a value is read as this value**, with what follows it left over. -/
theorem Denotes.readsAs {cs : List Char} {v : Json} (h : Denotes cs v) : ReadsAs cs v := by
  -- a value in a list or an object is shorter than the whole, so that the fuel lasts
  induction h with
  | null => exact readsAs_of_value fun _ rest _ _ => word?_append "ull" .null rest
  | true => exact readsAs_of_value fun _ rest _ _ => word?_append "rue" (.bool Bool.true) rest
  | false => exact readsAs_of_value fun _ rest _ _ => word?_append "alse" (.bool Bool.false) rest
  | num h => exact readsAs_of_value fun fuel rest _ hrest => value_num h hrest fuel
  | str h => exact readsAs_of_value fun fuel rest _ _ => value_str h rest fuel
  | emptyArr h =>
    apply readsAs_of_value
    intro fuel rest _ _
    have hclose := (skip_append h (']' :: rest)).trans (skip_of_head (by decide) rest)
    simp [value, skip_of_head (show isSpace '[' = Bool.false by decide), hclose]
  | @arr list hne _ ih =>
    apply readsAs_of_value
    intro fuel rest hfuel _
    simp only [List.length_append, List.length_cons, List.length_nil] at hfuel
    have hitems := value_arr (items_append hne ih rest (Nat.lt_of_succ_lt_succ hfuel))
    simpa using hitems
  | emptyObj h =>
    apply readsAs_of_value
    intro fuel rest _ _
    have hclose := (skip_append h ('\x7d' :: rest)).trans (skip_of_head (by decide) rest)
    simp [value, skip_of_head (show isSpace '\x7b' = Bool.false by decide), hclose]
  | @obj list hne hnames _ ih =>
    apply readsAs_of_value
    intro fuel rest hfuel _
    simp only [List.length_append, List.length_cons, List.length_nil] at hfuel
    have hfields := fields_append hne hnames ih rest (Nat.lt_of_succ_lt_succ hfuel)
    have hlist : (list.map fun m => (some m.name, m.value)) =
        (list.map fun m => (m.name, m.value)).map fun m => (some m.1, m.2) := by
      rw [List.map_map]
      rfl
    simpa using value_obj (hlist ▸ hfields)
  | @lead c cs v hc _ ih =>
    intro fuel rest hfuel hrest
    obtain ⟨after, hvalue, hskip⟩ := ih fuel rest (Nat.lt_of_succ_lt hfuel) hrest
    exact ⟨after, (value_congr (skip_cons hc _) fuel).trans hvalue, hskip⟩
  | @tail c cs v hc _ ih =>
    intro fuel rest hfuel _
    rw [List.length_append] at hfuel
    obtain ⟨after, hvalue, hskip⟩ := ih fuel (c :: rest) (by omega) (ends_cons_space hc rest)
    refine ⟨after, ?_, hskip.trans (skip_cons hc rest)⟩
    rw [List.append_assoc, List.singleton_append]
    exact hvalue

/-- The reader accepts every text that is JSON, and reads it as what it denotes. -/
theorem Denotes.read?_eq {cs : List Char} {v : Json} (h : Denotes cs v) :
    read? (String.ofList cs) = some v := by
  have hends : Ends [] := fun c hc => nomatch hc
  obtain ⟨after, hvalue, hskip⟩ := h.readsAs (cs.length + 1) [] (Nat.lt_succ_self _) hends
  rw [List.append_nil] at hvalue
  simp only [read?, String.toList_ofList, hvalue, hskip]
  rfl

end Json

end TimedTrials
