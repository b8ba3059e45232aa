/-
  TimedTrials/Proofs/Json/Writing.lean
  ====================================
  **The compact form of a value is JSON, and denotes the value.**

  A value can be written when its numerals are numerals and all of its strings have a text
  (`Writable`); numbers that come from integers always are. The compact form of such a value
  belongs to the grammar and denotes the value (`Writable.denotes`), so that it is read back.
-/
import TimedTrials.Proofs.Json.Grammar

namespace TimedTrials

/-! ### Numerals -/

/-- The parts of a numeral are made of digits, as they have to be. -/
structure Numeral.WellFormed (n : Numeral) : Prop where
  whole : IsWhole n.whole
  fraction : ∀ ds ∈ n.fraction, AreDigits ds
  exponent : ∀ e ∈ n.exponent, AreDigits e.2

def fractionChars : Option (List Char) → List Char
  | some ds => '.' :: ds
  | none => []

def exponentChars : Option (Bool × List Char) → List Char
  | some (negative, ds) => 'e' :: (if negative then '-' else '+') :: ds
  | none => []

theorem Numeral.chars_eq (n : Numeral) : n.chars =
    signChars n.negative ++ (n.whole ++ (fractionChars n.fraction ++ exponentChars n.exponent)) := by
  simp only [chars, signChars, List.append_assoc]
  rfl

theorem Numeral.WellFormed.spells {n : Numeral} (h : n.WellFormed) : SpellsNumeral n.chars n := by
  have hfraction : SpellsFraction (fractionChars n.fraction) n.fraction := by
    cases hn : n.fraction with
    | none => exact .absent
    | some ds => exact .present (h.fraction ds hn)
  have hexponent : SpellsExponent (exponentChars n.exponent) n.exponent := by
    cases hn : n.exponent with
    | none => exact .absent
    | some e =>
      obtain ⟨negative, ds⟩ := e
      cases negative with
      | true => exact .negative (Or.inl rfl) (h.exponent _ hn)
      | false => exact .positive (Or.inl rfl) (h.exponent _ hn)
  rw [n.chars_eq]
  exact .parts h.whole hfraction hexponent

theorem head?_toDigits {n : Nat} (hn : 0 < n) : (Nat.toDigits 10 n).head? ≠ some '0' := by
  induction n using Nat.strongRecOn with
  | ind n ih =>
    rcases Nat.lt_or_ge n 10 with hlt | hge
    · rw [Nat.toDigits_of_lt_base hlt]
      have hdigit : ∀ n < 10, 0 < n → Nat.digitChar n ≠ '0' := by decide
      simpa using hdigit n hlt hn
    · have hfirst := ih (n / 10) (Nat.div_lt_self hn (by decide)) (Nat.div_pos hge (by decide))
      obtain ⟨d, ds, hds⟩ := List.exists_cons_of_ne_nil (Nat.toDigits_ne_nil (n := n / 10) (b := 10))
      rw [Nat.toDigits_of_base_le (by decide) hge, hds]
      rw [hds] at hfirst
      exact hfirst

theorem isWhole_natDigits (n : Nat) : IsWhole (Number.natDigits n) := by
  refine ⟨⟨Nat.toDigits_ne_nil, ?_⟩, ?_⟩
  · exact fun c hc => Nat.isDigit_of_mem_toDigits (by decide) (by decide) hc
  · intro hzero
    rcases Nat.eq_zero_or_pos n with rfl | hpos
    · rfl
    · exact absurd hzero (head?_toDigits hpos)

theorem Numeral.wellFormed_ofInt (n : Int) : (Numeral.ofInt n).WellFormed where
  whole := isWhole_natDigits n.natAbs
  fraction := fun _ h => nomatch h
  exponent := fun _ h => nomatch h

namespace Json

open Reader (hex4? scalar? shortEscape?)

/-! ### Strings -/

theorem Spells.append {w₁ w₂ t₁ t₂ : List Char} (h₁ : Spells w₁ t₁) (h₂ : Spells w₂ t₂) :
    Spells (w₁ ++ w₂) (t₁ ++ t₂) := by
  induction h₁ with
  | nil => exact h₂
  | plain hc _ ih => exact .plain hc ih
  | short hc _ ih => exact .short hc ih
  | unit hn hc _ ih => exact .unit hn hc ih
  | pair hhigh hlow hc _ ih => exact .pair hhigh hlow hc ih

theorem Spells.flatMap {f : Char → List Char} (h : ∀ c, Spells (f c) [c]) (text : List Char) :
    Spells (text.flatMap f) text := by
  induction text with
  | nil => exact .nil
  | cons c text ih =>
    rw [List.flatMap_cons]
    exact (h c).append ih

/-- A control character is written with its two last hexadecimal digits. -/
theorem controlEscape_eq {n : Nat} (hn : n < 0x20) :
    controlEscape n = ['\\', 'u', '0', '0', (n / 16).digitChar, (n % 16).digitChar] ∧
      hex4? '0' '0' (n / 16).digitChar (n % 16).digitChar = some n := by
  have hall : ∀ n < 0x20,
      controlEscape n = ['\\', 'u', '0', '0', (n / 16).digitChar, (n % 16).digitChar] ∧
        hex4? '0' '0' (n / 16).digitChar (n % 16).digitChar = some n := by decide +kernel
  exact hall n hn

theorem scalar?_of_lt {c : Char} (h : c.toNat < 0x20) : scalar? c.toNat = some c := by
  rw [scalar?, if_neg (by omega), Char.ofNat_toNat]

theorem spells_escapeChar (c : Char) : Spells (escapeChar c) [c] := by
  have hchar : ∀ n, c.toNat = n → Char.ofNat n = c := by
    rintro n rfl
    exact Char.ofNat_toNat c
  unfold escapeChar
  split
  · rename_i h
    subst h
    exact .short rfl .nil
  split
  · rename_i h
    subst h
    exact .short rfl .nil
  split
  · rename_i h
    subst h
    exact .short rfl .nil
  split
  · rename_i h
    subst h
    exact .short rfl .nil
  split
  · rename_i h
    subst h
    exact .short rfl .nil
  split
  · rename_i h
    exact hchar 8 h ▸ .short rfl .nil
  split
  · rename_i h
    exact hchar 12 h ▸ .short rfl .nil
  split
  · rename_i hcontrol
    obtain ⟨hescape, hhex⟩ := controlEscape_eq hcontrol
    exact hescape ▸ .unit hhex (scalar?_of_lt hcontrol) .nil
  · rename_i hquote hslash _ _ _ _ _ hcontrol
    exact .plain ⟨Nat.not_lt.mp hcontrol, hquote, hslash⟩ .nil

theorem spells_quoted (s : String) : Spells (s.toList.flatMap escapeChar) s.toList :=
  Spells.flatMap spells_escapeChar s.toList

theorem spellsName_quoted (s : String) : SpellsName (quoted s) s := by
  have hnone : AreSpaces [] := fun c hc => nomatch hc
  have hname := SpellsName.quoted hnone (spells_quoted s) hnone
  rwa [String.ofList_toList] at hname

/-! ### Values -/

/-- A value whose numerals are well formed and whose strings have texts. -/
inductive Writable : Json → Prop where
  | null : Writable .null
  | bool (b : Bool) : Writable (.bool b)
  | num {n : Numeral} (h : n.WellFormed) : Writable (.num n)
  | str (s : String) : Writable (.str s)
  | arr {items : List Json} (h : ∀ v ∈ items, Writable v) : Writable (.arr items)
  | obj {fields : List (String × Json)} (h : ∀ f ∈ fields, Writable f.2) : Writable (.obj fields)

theorem writable_int (n : Int) : Writable (int n) := .num (Numeral.wellFormed_ofInt n)

theorem writable_nat (n : Nat) : Writable (nat n) := .num (Numeral.wellFormed_ofInt n)

theorem writable_opt {α : Type} {f : α → Json} (h : ∀ a, Writable (f a)) (a : Option α) :
    Writable (opt f a) := by
  cases a with
  | none => exact .null
  | some a => exact h a

theorem writable_list {α : Type} {f : α → Json} {xs : List α} (h : ∀ x ∈ xs, Writable (f x)) :
    Writable (list f xs) := by
  refine .arr ?_
  intro v hv
  obtain ⟨x, hx, rfl⟩ := List.mem_map.mp hv
  exact h x hx

theorem compactItems_eq (items : List Json) : compactItems items = items.map compactChars := by
  induction items with
  | nil => rfl
  | cons v items ih => rw [compactItems, ih, List.map_cons]

theorem compactFields_eq (fields : List (String × Json)) :
    compactFields fields = fields.map fun f => quoted f.1 ++ ':' :: f.2.compactChars := by
  induction fields with
  | nil => rfl
  | cons f fields ih => rw [compactFields, ih, List.map_cons]

/-- An item as it is written. -/
def Item.compact (v : Json) : Item := ⟨v.compactChars, v⟩

/-- A field as it is written. -/
def Member.compact (f : String × Json) : Member := ⟨quoted f.1, f.1, f.2.compactChars, f.2⟩

theorem compactChars_arr (items : List Json) : compactChars (.arr items) =
    '[' :: (separated [','] ((items.map Item.compact).map (·.text)) ++ [']']) := by
  have hitems : (items.map Item.compact).map (·.text) = compactItems items := by
    rw [compactItems_eq, List.map_map]
    rfl
  rw [hitems]
  rfl

theorem compactChars_obj (fields : List (String × Json)) : compactChars (.obj fields) =
    '\x7b' :: (separated [','] ((fields.map Member.compact).map Member.written) ++ ['\x7d']) := by
  have hfields : (fields.map Member.compact).map Member.written = compactFields fields := by
    rw [compactFields_eq, List.map_map]
    rfl
  rw [hfields]
  rfl

/-- **The compact form of a value denotes the value.** -/
theorem Writable.denotes {v : Json} (h : Writable v) : Denotes v.compactChars v := by
  have hnone : AreSpaces [] := fun c hc => nomatch hc
  induction h with
  | null => exact .null
  | bool b =>
    cases b with
    | true => exact .true
    | false => exact .false
  | num h => exact .num h.spells
  | str s =>
    have hstr := Denotes.str (spells_quoted s)
    rwa [String.ofList_toList] at hstr
  | @arr items _ ih =>
    by_cases hne : items = []
    · subst hne
      exact .emptyArr hnone
    · have hitems : ∀ item ∈ items.map Item.compact, Denotes item.text item.value := by
        intro item hitem
        obtain ⟨v, hv, rfl⟩ := List.mem_map.mp hitem
        exact ih v hv
      have hvalues : (items.map Item.compact).map (·.value) = items := by
        rw [List.map_map]
        exact List.map_id items
      have harr := Denotes.arr (mt List.map_eq_nil_iff.mp hne) hitems
      rwa [← compactChars_arr, hvalues] at harr
  | @obj fields _ ih =>
    by_cases hne : fields = []
    · subst hne
      exact .emptyObj hnone
    · have hnames : ∀ m ∈ fields.map Member.compact, SpellsName m.nameText m.name := by
        intro m hm
        obtain ⟨f, _, rfl⟩ := List.mem_map.mp hm
        exact spellsName_quoted f.1
      have hmembers : ∀ m ∈ fields.map Member.compact, Denotes m.text m.value := by
        intro m hm
        obtain ⟨f, hf, rfl⟩ := List.mem_map.mp hm
        exact ih f hf
      have hfields : ((fields.map Member.compact).map fun m => (m.name, m.value)) = fields := by
        rw [List.map_map]
        exact List.map_id fields
      have hobj := Denotes.obj (mt List.map_eq_nil_iff.mp hne) hnames hmembers
      rwa [← compactChars_obj, hfields] at hobj

end Json

end TimedTrials
