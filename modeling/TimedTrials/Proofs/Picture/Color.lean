/-
  TimedTrials/Proofs/Picture/Color.lean
  =====================================
  **Which texts are colors, and which color each of them is.**

  A color is written in four documented ways (`Notation`): by name, with three or six hexadecimal
  digits behind a number sign, or as a function of three numbers. All of them are read, without
  regard to the blanks around them or to ASCII case. One more form is read, which is not
  documented (`SignedNotation`): a plus sign may stand in the place of the first digit of a pair,
  because a pair of digits is read like any other number. Nothing else is a color
  (`read?_eq_some_iff`).
-/
import TimedTrials.Picture.Basic
import TimedTrials.Proofs.Number.Numerals
import TimedTrials.Proofs.Text.Trimming

namespace TimedTrials.Color

/-! ### Ways to write a color -/

/-- What is looked at of a text: it is trimmed, and ASCII capitals are lowered. -/
def plainText (raw : String) : List Char := (Text.trimChars raw.toList).map Text.lowerAsciiChar

/-- A lower-case hexadecimal digit and its value. -/
def IsHex (c : Char) (d : Nat) : Prop := d < 16 ∧ c = d.digitChar

/-- Two hexadecimal digits and their value. -/
def IsHexPair (a b : Char) (n : Nat) : Prop := ∃ d d', IsHex a d ∧ IsHex b d' ∧ n = d * 16 + d'

/-- A plus sign and a hexadecimal digit, and the value of the digit. -/
def IsSignedDigit (a b : Char) (n : Nat) : Prop := a = '+' ∧ IsHex b n

/-- The text of a number up to 255, which may have blanks around it. -/
def IsChannel (cs : List Char) (n : Nat) : Prop :=
  Number.Numeral n (Text.trimChars cs) ∧ n ≤ 255

/-- The documented ways to write a color. A single digit counts twice. -/
inductive Notation : List Char → Color → Prop where
  | name {name : String} {c : Color} (hnamed : (name, c) ∈ named) : Notation name.toList c
  | digits {r g b : Char} {red green blue : Nat} (hred : IsHex r red) (hgreen : IsHex g green)
      (hblue : IsHex b blue) :
      Notation ['#', r, g, b]
        ⟨(red * 16 + red).toUInt8, (green * 16 + green).toUInt8, (blue * 16 + blue).toUInt8⟩
  | pairs {r r' g g' b b' : Char} {red green blue : Nat} (hred : IsHexPair r r' red)
      (hgreen : IsHexPair g g' green) (hblue : IsHexPair b b' blue) :
      Notation ['#', r, r', g, g', b, b'] ⟨red.toUInt8, green.toUInt8, blue.toUInt8⟩
  | function {rs gs bs : List Char} {red green blue : Nat}
      (hred : IsChannel rs red) (hgreen : IsChannel gs green) (hblue : IsChannel bs blue) :
      Notation ("rgb(".toList ++ (rs ++ ',' :: (gs ++ ',' :: bs)) ++ [')'])
        ⟨red.toUInt8, green.toUInt8, blue.toUInt8⟩

/-- Three pairs behind a number sign of which at least one has a plus sign for its first digit. -/
inductive SignedNotation : List Char → Color → Prop where
  | pairs {r r' g g' b b' : Char} {red green blue : Nat}
      (hred : IsHexPair r r' red ∨ IsSignedDigit r r' red)
      (hgreen : IsHexPair g g' green ∨ IsSignedDigit g g' green)
      (hblue : IsHexPair b b' blue ∨ IsSignedDigit b b' blue) (hsign : '+' ∈ [r, g, b]) :
      SignedNotation ['#', r, r', g, g', b, b'] ⟨red.toUInt8, green.toUInt8, blue.toUInt8⟩

variable {text cs : List Char} {color : Color} {a b : Char} {n : Nat}

/-! ### Hexadecimal digits -/

theorem hexDigit?_digitChar : ∀ d < 16, hexDigit? d.digitChar = some d := by decide

theorem toNat_digitChar : ∀ d < 16, d.digitChar.toNat = if d < 10 then 48 + d else 87 + d := by
  decide

theorem hexDigit?_eq_some_iff : hexDigit? a = some n ↔ IsHex a n := by
  constructor
  · intro h
    have hcode : n < 16 ∧ a.toNat = if n < 10 then 48 + n else 87 + n := by
      rw [hexDigit?] at h
      split at h
      · rename_i hrange
        have hlow : 48 ≤ a.toNat ∧ a.toNat ≤ 57 := hrange
        obtain rfl := Option.some.inj h
        rw [if_pos (by omega)]
        omega
      · split at h
        · rename_i hrange
          have hlow : 97 ≤ a.toNat ∧ a.toNat ≤ 102 := hrange
          obtain rfl := Option.some.inj h
          rw [if_neg (by omega)]
          omega
        · cases h
    refine ⟨hcode.1, ?_⟩
    rw [← Char.toNat_inj, hcode.2, toNat_digitChar n hcode.1]
  · rintro ⟨hn, rfl⟩
    exact hexDigit?_digitChar n hn

theorem not_isHex_plus (d : Nat) : ¬ IsHex '+' d := by
  rw [← hexDigit?_eq_some_iff]
  exact nofun

theorem hexSingle?_eq_some_iff {x : UInt8} :
    hexSingle? a = some x ↔ ∃ d, IsHex a d ∧ (d * 16 + d).toUInt8 = x := by
  have hdouble : ∀ d, d * 17 = d * 16 + d := fun d => Nat.mul_succ d 16
  simp only [hexSingle?, Option.map_eq_some_iff, hexDigit?_eq_some_iff, hdouble]

theorem hexPair?_eq_some_iff {x : UInt8} :
    hexPair? a b = some x ↔ ∃ n, (IsHexPair a b n ∨ IsSignedDigit a b n) ∧ n.toUInt8 = x := by
  rw [hexPair?]
  split
  · rename_i hplus
    subst hplus
    simp [hexDigit?_eq_some_iff, IsHexPair, IsSignedDigit, not_isHex_plus]
  · rename_i hplus
    simp only [Option.bind_eq_bind, Option.bind_eq_some_iff, hexDigit?_eq_some_iff,
      Option.pure_def, Option.some.injEq, IsHexPair, IsSignedDigit, hplus, false_and, or_false]
    constructor
    · rintro ⟨d, hd, d', hd', hx⟩
      exact ⟨_, ⟨d, d', hd, hd', rfl⟩, hx⟩
    · rintro ⟨_, ⟨d, d', hd, hd', rfl⟩, hx⟩
      exact ⟨d, hd, d', hd', hx⟩

theorem IsHexPair.ne_plus (h : IsHexPair a b n) : a ≠ '+' := by
  rintro rfl
  obtain ⟨d, _, hd, _⟩ := h
  exact not_isHex_plus d hd

/-- Behind a number sign stand three digits or three pairs. -/
theorem notation_of_ofHex? (h : ofHex? cs = some color) :
    Notation ('#' :: cs) color ∨ SignedNotation ('#' :: cs) color := by
  rw [ofHex?.eq_def] at h
  split at h
  · simp only [Option.bind_eq_bind, Option.bind_eq_some_iff, hexSingle?_eq_some_iff] at h
    obtain ⟨_, ⟨red, hred, rfl⟩, _, ⟨green, hgreen, rfl⟩, _, ⟨blue, hblue, rfl⟩, hcolor⟩ := h
    obtain rfl := Option.some.inj hcolor
    exact .inl (.digits hred hgreen hblue)
  · rename_i r r' g g' b b'
    simp only [Option.bind_eq_bind, Option.bind_eq_some_iff, hexPair?_eq_some_iff] at h
    obtain ⟨_, ⟨red, hred, rfl⟩, _, ⟨green, hgreen, rfl⟩, _, ⟨blue, hblue, rfl⟩, hcolor⟩ := h
    obtain rfl := Option.some.inj hcolor
    by_cases hsign : '+' ∈ [r, g, b]
    · exact .inr (.pairs hred hgreen hblue hsign)
    · simp only [List.mem_cons, List.not_mem_nil, or_false, not_or, eq_comm (a := '+')] at hsign
      exact .inl (.pairs (hred.resolve_right fun h => hsign.1 h.1)
        (hgreen.resolve_right fun h => hsign.2.1 h.1) (hblue.resolve_right fun h => hsign.2.2 h.1))
  · cases h

theorem ofHex?_of_digits {r g b : Char} {red green blue : Nat} (hred : IsHex r red)
    (hgreen : IsHex g green) (hblue : IsHex b blue) :
    ofHex? [r, g, b] = some
      ⟨(red * 16 + red).toUInt8, (green * 16 + green).toUInt8, (blue * 16 + blue).toUInt8⟩ := by
  simp only [ofHex?, hexSingle?_eq_some_iff.mpr ⟨_, hred, rfl⟩,
    hexSingle?_eq_some_iff.mpr ⟨_, hgreen, rfl⟩, hexSingle?_eq_some_iff.mpr ⟨_, hblue, rfl⟩]
  rfl

theorem ofHex?_of_pairs {r r' g g' b b' : Char} {red green blue : Nat}
    (hred : IsHexPair r r' red ∨ IsSignedDigit r r' red)
    (hgreen : IsHexPair g g' green ∨ IsSignedDigit g g' green)
    (hblue : IsHexPair b b' blue ∨ IsSignedDigit b b' blue) :
    ofHex? [r, r', g, g', b, b'] = some ⟨red.toUInt8, green.toUInt8, blue.toUInt8⟩ := by
  simp only [ofHex?, hexPair?_eq_some_iff.mpr ⟨_, hred, rfl⟩,
    hexPair?_eq_some_iff.mpr ⟨_, hgreen, rfl⟩, hexPair?_eq_some_iff.mpr ⟨_, hblue, rfl⟩]
  rfl

/-! ### Functions -/

theorem channel?_eq_some_iff {x : UInt8} :
    channel? cs = some x ↔ ∃ n, IsChannel cs n ∧ n.toUInt8 = x := by
  simp only [channel?, Option.map_eq_some_iff, Number.readNat?_eq_some_iff, IsChannel]

theorem IsChannel.channel?_eq (h : IsChannel cs n) : channel? cs = some n.toUInt8 :=
  channel?_eq_some_iff.mpr ⟨n, h, rfl⟩

theorem functionArguments?_eq_some_iff {arguments : List Char} :
    functionArguments? cs = some arguments ↔ cs = "rgb(".toList ++ arguments ++ [')'] := by
  simp only [functionArguments?, Option.bind_eq_bind, Option.bind_eq_some_iff]
  constructor
  · rintro ⟨rest, hrest, h⟩
    split at h
    · rename_i hlast
      obtain rfl := Option.some.inj h
      rw [Text.eq_append_of_dropHead? hrest, List.append_assoc,
        List.dropLast_append_getLast? _ hlast]
    · cases h
  · rintro rfl
    refine ⟨arguments ++ [')'], ?_, by simp⟩
    rw [List.append_assoc]
    exact Text.dropHead?_append _ _

/-- A comma is neither a blank nor a part of a numeral. -/
theorem IsChannel.comma_not_mem (h : IsChannel cs n) : ',' ∉ cs := by
  obtain ⟨lead, tail, hcs, hlead, htail⟩ := Text.exists_ends Text.isBlank cs
  intro hmem
  rw [hcs, List.mem_append, List.mem_append] at hmem
  rcases hmem with (hmem | hmem) | hmem
  · exact absurd (hlead ',' hmem) (by decide)
  · exact absurd (h.1.eq_plus_or_isDigit hmem) (by decide)
  · exact absurd (htail ',' hmem) (by decide)

theorem ofNumbers?_of_channels {rs gs bs : List Char} {red green blue : Nat}
    (hred : IsChannel rs red) (hgreen : IsChannel gs green) (hblue : IsChannel bs blue) :
    ofNumbers? (rs ++ ',' :: (gs ++ ',' :: bs)) =
      some ⟨red.toUInt8, green.toUInt8, blue.toUInt8⟩ := by
  have hsplit : (rs ++ ',' :: (gs ++ ',' :: bs)).splitOn ',' = [rs, gs, bs] := by
    rw [List.splitOn_append_cons_self_of_not_mem hred.comma_not_mem,
      List.splitOn_append_cons_self_of_not_mem hgreen.comma_not_mem,
      List.splitOn_eq_singleton hblue.comma_not_mem]
  simp only [ofNumbers?, hsplit, List.mapM_cons, List.mapM_nil, hred.channel?_eq,
    hgreen.channel?_eq, hblue.channel?_eq]
  rfl

theorem exists_of_mapM_eq_cons {parts : List (List Char)} {x : UInt8} {xs : List UInt8}
    (h : parts.mapM channel? = some (x :: xs)) :
    ∃ part rest, parts = part :: rest ∧ (∃ n, IsChannel part n ∧ n.toUInt8 = x) ∧
      rest.mapM channel? = some xs := by
  cases parts with
  | nil => cases h
  | cons part rest =>
    simp only [List.mapM_cons, Option.bind_eq_bind, Option.bind_eq_some_iff, Option.pure_def,
      Option.some.injEq, List.cons.injEq] at h
    obtain ⟨_, hpart, _, hrest, rfl, rfl⟩ := h
    exact ⟨part, rest, rfl, channel?_eq_some_iff.mp hpart, hrest⟩

theorem notation_of_ofNumbers? (h : ofNumbers? cs = some color) :
    Notation ("rgb(".toList ++ cs ++ [')']) color := by
  have hjoined : [','].intercalate (cs.splitOn ',') = cs := List.intercalate_splitOn ','
  simp only [ofNumbers?, Option.bind_eq_bind, Option.bind_eq_some_iff] at h
  obtain ⟨channels, hchannels, h⟩ := h
  split at h
  · obtain rfl := Option.some.inj h
    obtain ⟨rs, _, hparts, ⟨red, hred, rfl⟩, hgreens⟩ := exists_of_mapM_eq_cons hchannels
    obtain ⟨gs, _, rfl, ⟨green, hgreen, rfl⟩, hblues⟩ := exists_of_mapM_eq_cons hgreens
    obtain ⟨bs, rest, rfl, ⟨blue, hblue, rfl⟩, hend⟩ := exists_of_mapM_eq_cons hblues
    cases rest with
    | nil =>
      have hcs : cs = rs ++ ',' :: (gs ++ ',' :: bs) := by
        rw [← hjoined, hparts]
        simp
      rw [hcs]
      exact .function hred hgreen hblue
    | cons part rest =>
      simp [List.mapM_cons, Option.bind_eq_some_iff] at hend
  · cases h

/-! ### Names -/

theorem lookup_named : ∀ entry ∈ named, named.lookup entry.1 = some entry.2 := by decide

/-- No name looks like one of the other ways to write a color. -/
theorem name_apart : ∀ entry ∈ named, entry.1.toList.head? ≠ some '#' ∧
    functionArguments? entry.1.toList = none := by decide

/-! ### All ways together -/

variable {raw : String}

theorem read?_of_numberSign (h : plainText raw = '#' :: cs) : read? raw = ofHex? cs := by
  unfold read?
  rw [plainText] at h
  simp only [h]

theorem read?_of_head (h : (plainText raw).head? ≠ some '#') : read? raw =
    (functionArguments? (plainText raw)).elim (named.lookup (String.ofList (plainText raw)))
      ofNumbers? := by
  unfold read?
  rw [plainText] at h ⊢
  dsimp only
  split
  · rename_i heq
    exact absurd (congrArg List.head? heq) h
  · cases functionArguments? ((Text.trimChars raw.toList).map Text.lowerAsciiChar) <;> rfl

theorem head_of_functionArguments? {arguments : List Char}
    (h : functionArguments? cs = some arguments) : cs.head? ≠ some '#' := by
  rw [functionArguments?_eq_some_iff.mp h]
  exact fun heq => absurd (Option.some.inj heq) (by decide)

theorem notation_of_read? (h : read? raw = some color) :
    Notation (plainText raw) color ∨ SignedNotation (plainText raw) color := by
  by_cases hhead : (plainText raw).head? = some '#'
  · obtain ⟨digits, htext⟩ := List.head?_eq_some_iff.mp hhead
    rw [read?_of_numberSign htext] at h
    rw [htext]
    exact notation_of_ofHex? h
  · rw [read?_of_head hhead] at h
    cases hfunction : functionArguments? (plainText raw) with
    | none =>
      rw [hfunction, Option.elim_none, List.lookup_eq_some_iff] at h
      obtain ⟨before, after, hnamed, _⟩ := h
      have hmem : (String.ofList (plainText raw), color) ∈ named := by
        rw [hnamed]
        exact List.mem_append_right _ List.mem_cons_self
      have hname := Notation.name hmem
      rw [String.toList_ofList] at hname
      exact .inl hname
    | some arguments =>
      rw [hfunction, Option.elim_some] at h
      rw [functionArguments?_eq_some_iff.mp hfunction]
      exact .inl (notation_of_ofNumbers? h)

theorem read?_of_notation (h : Notation (plainText raw) color) : read? raw = some color := by
  generalize htext : plainText raw = text at h
  cases h with
  | name hnamed =>
    obtain ⟨hhead, hfunction⟩ := name_apart _ hnamed
    rw [← htext] at hhead hfunction
    rw [read?_of_head hhead, hfunction, Option.elim_none, htext, String.ofList_toList]
    exact lookup_named _ hnamed
  | digits hred hgreen hblue =>
    rw [read?_of_numberSign htext]
    exact ofHex?_of_digits hred hgreen hblue
  | pairs hred hgreen hblue =>
    rw [read?_of_numberSign htext]
    exact ofHex?_of_pairs (.inl hred) (.inl hgreen) (.inl hblue)
  | function hred hgreen hblue =>
    have hfunction := functionArguments?_eq_some_iff.mpr htext
    rw [read?_of_head (head_of_functionArguments? hfunction), hfunction, Option.elim_some]
    exact ofNumbers?_of_channels hred hgreen hblue

theorem read?_of_signedNotation (h : SignedNotation (plainText raw) color) :
    read? raw = some color := by
  generalize htext : plainText raw = text at h
  cases h with
  | pairs hred hgreen hblue hsign =>
    rw [read?_of_numberSign htext]
    exact ofHex?_of_pairs hred hgreen hblue

theorem read?_eq_some_iff : read? raw = some color ↔
    Notation (plainText raw) color ∨ SignedNotation (plainText raw) color :=
  ⟨notation_of_read?, fun h => h.elim read?_of_notation read?_of_signedNotation⟩

theorem SignedNotation.not_notation {other : Color} (h : SignedNotation text color) :
    ¬ Notation text other := by
  intro hother
  cases h with
  | @pairs r r' g g' b b' red green blue hred hgreen hblue hsign =>
    generalize htext : ['#', r, r', g, g', b, b'] = text at hother
    cases hother with
    | name hnamed => exact (name_apart _ hnamed).1 (htext ▸ rfl)
    | digits => simp at htext
    | pairs hred' hgreen' hblue' =>
      obtain ⟨rfl, rfl, rfl, rfl, rfl, rfl⟩ := by simpa using htext
      simp only [List.mem_cons, List.not_mem_nil, or_false] at hsign
      rcases hsign with h | h | h
      · exact hred'.ne_plus h.symm
      · exact hgreen'.ne_plus h.symm
      · exact hblue'.ne_plus h.symm
    | function => exact absurd (List.cons.inj htext).1 (by decide)

/-- **Which texts are colors, and which color each of them is.** A text is read as a color of full
    opacity if it is written in one of the documented ways, and besides if plus signs stand in the
    place of first digits; so the documented ways are all there are just when the text is not such
    a one. -/
theorem reads_notations (raw : String) :
    (∀ r g b a, (read? raw).map Pixel.ofColor = some ⟨r, g, b, a⟩ ↔ a = 255 ∧
      (Notation (plainText raw) ⟨r, g, b⟩ ∨ SignedNotation (plainText raw) ⟨r, g, b⟩)) ∧
      ((∀ color, read? raw = some color ↔ Notation (plainText raw) color) ↔
        ∀ color, ¬ SignedNotation (plainText raw) color) := by
  refine ⟨?_, ?_⟩
  · intro r g b a
    rw [← read?_eq_some_iff, Option.map_eq_some_iff]
    constructor
    · rintro ⟨⟨r', g', b'⟩, hread, hpixel⟩
      obtain ⟨rfl, rfl, rfl, rfl⟩ := Pixel.mk.inj hpixel
      exact ⟨rfl, hread⟩
    · rintro ⟨rfl, hread⟩
      exact ⟨_, hread, rfl⟩
  · simp only [read?_eq_some_iff]
    constructor
    · intro h color hsigned
      exact hsigned.not_notation ((h color).mp (.inr hsigned))
    · intro h color
      exact or_iff_left (h color)

/-- Six characters behind the number sign, half of which are no digits. -/
theorem signed_pairs_read : read? "#+1+2+3" = some ⟨1, 2, 3⟩ ∧
    ∀ color, ¬ Notation (plainText "#+1+2+3") color := by
  have hsigned : SignedNotation (plainText "#+1+2+3") ⟨1, 2, 3⟩ := by
    have hpair : ∀ d : Char, ∀ n, hexDigit? d = some n →
        IsHexPair '+' d n ∨ IsSignedDigit '+' d n :=
      fun d n h => .inr ⟨rfl, hexDigit?_eq_some_iff.mp h⟩
    exact .pairs (hpair '1' 1 rfl) (hpair '2' 2 rfl) (hpair '3' 3 rfl) List.mem_cons_self
  exact ⟨read?_of_signedNotation hsigned, fun _ => hsigned.not_notation⟩

end TimedTrials.Color
