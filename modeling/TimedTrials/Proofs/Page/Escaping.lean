/-
  TimedTrials/Proofs/Page/Escaping.lean
  =====================================
  **The payload in its escaped form is JSON, and denotes what the payload is.**

  Outside of its strings a JSON text holds none of the three characters that are escaped, nor do
  its escapes; and a character that stands for itself in a string may stand as its code unit
  instead. So escaping leads from a text that denotes a value to one that denotes the same value
  (`Denotes.escaped`), and nothing of it can be taken for markup (`harmless_of_mem_escaped`).
-/
import TimedTrials.Page.Document
import TimedTrials.Proofs.Stored.Trials

namespace TimedTrials

open Json (separated)

namespace Page

/-- A character that the markup around a payload gives no meaning to. -/
def Harmless (c : Char) : Prop := c ≠ '<' ∧ c ≠ '>' ∧ c ≠ '&'

variable {c d : Char} {cs ds : List Char}

theorem escapeScriptChar_of_harmless (h : Harmless c) : escapeScriptChar c = [c] := by
  rw [escapeScriptChar, if_neg h.1, if_neg h.2.1, if_neg h.2.2]

theorem escaped_of_harmless (h : ∀ c ∈ cs, Harmless c) : cs.flatMap escapeScriptChar = cs := by
  induction cs with
  | nil => rfl
  | cons c cs ih =>
    rw [List.forall_mem_cons] at h
    rw [List.flatMap_cons, escapeScriptChar_of_harmless h.1, ih h.2]
    rfl

theorem escaped_append (h : ∀ c ∈ cs, Harmless c) (ds : List Char) :
    (cs ++ ds).flatMap escapeScriptChar = cs ++ ds.flatMap escapeScriptChar := by
  rw [List.flatMap_append, escaped_of_harmless h]

/-- None of the three characters is left. -/
theorem harmless_of_mem_escaped (h : d ∈ cs.flatMap escapeScriptChar) : Harmless d := by
  have hunits : ∀ d ∈ "\\u003c".toList ++ "\\u003e".toList ++ "\\u0026".toList, Harmless d := by
    simp [Harmless]
  simp only [List.forall_mem_append] at hunits
  obtain ⟨c, -, hd⟩ := List.mem_flatMap.mp h
  unfold escapeScriptChar at hd
  split at hd
  · exact hunits.1.1 d hd
  split at hd
  · exact hunits.1.2 d hd
  split at hd
  · exact hunits.2 d hd
  · rename_i hless hgreater hand
    obtain rfl := List.mem_singleton.mp hd
    exact ⟨hless, hgreater, hand⟩

/-! ### Tokens that stay as they are -/

/-- What a test accepts is harmless if it accepts none of the three. -/
theorem harmless_of_test {p : Char → Bool} (hc : p c = true)
    (hthree : p '<' = false ∧ p '>' = false ∧ p '&' = false) : Harmless c := by
  have hne : ∀ d, p d = false → c ≠ d := by
    rintro d hd rfl
    cases hc.symm.trans hd
  exact ⟨hne _ hthree.1, hne _ hthree.2.1, hne _ hthree.2.2⟩

theorem harmless_of_areDigits (h : AreDigits ds) : ∀ c ∈ ds, Harmless c :=
  fun c hc => harmless_of_test (h.2 c hc) (by decide)

theorem harmless_of_areSpaces (h : Json.AreSpaces ds) : ∀ c ∈ ds, Harmless c :=
  fun c hc => harmless_of_test (h c hc) (by decide)

theorem harmless_of_spellsNumeral {n : Numeral} (h : SpellsNumeral cs n) :
    ∀ c ∈ cs, Harmless c := by
  have hmarks : ∀ c ∈ ['-', '+', '.', 'e', 'E'], Harmless c := by simp [Harmless]
  simp only [List.forall_mem_cons] at hmarks
  obtain ⟨hminus, hplus, hpoint, he, hE, -⟩ := hmarks
  have hletter : ∀ e : Char, e = 'e' ∨ e = 'E' → Harmless e := by
    rintro e (rfl | rfl)
    · exact he
    · exact hE
  cases h with
  | @parts negative whole fractionText exponentText fraction exponent hwhole hfraction hexponent =>
    have hsign : ∀ c ∈ signChars negative, Harmless c := by
      cases negative with
      | true => simpa [signChars] using hminus
      | false => simp [signChars]
    have hfractionText : ∀ c ∈ fractionText, Harmless c := by
      cases hfraction with
      | absent => exact List.forall_mem_nil _
      | present hds => exact List.forall_mem_cons.mpr ⟨hpoint, harmless_of_areDigits hds⟩
    have hexponentText : ∀ c ∈ exponentText, Harmless c := by
      cases hexponent with
      | absent => exact List.forall_mem_nil _
      | unsigned e hds =>
        exact List.forall_mem_cons.mpr ⟨hletter _ e, harmless_of_areDigits hds⟩
      | positive e hds =>
        exact List.forall_mem_cons.mpr ⟨hletter _ e,
          List.forall_mem_cons.mpr ⟨hplus, harmless_of_areDigits hds⟩⟩
      | negative e hds =>
        exact List.forall_mem_cons.mpr ⟨hletter _ e,
          List.forall_mem_cons.mpr ⟨hminus, harmless_of_areDigits hds⟩⟩
    exact List.forall_mem_append.mpr ⟨hsign, List.forall_mem_append.mpr
      ⟨harmless_of_areDigits hwhole.1, List.forall_mem_append.mpr ⟨hfractionText, hexponentText⟩⟩⟩

theorem harmless_of_hex4? {h₁ h₂ h₃ h₄ : Char} {n : Nat}
    (h : Json.Reader.hex4? h₁ h₂ h₃ h₄ = some n) : ∀ c ∈ [h₁, h₂, h₃, h₄], Harmless c := by
  have hdigit : ∀ c v, Json.Reader.hexValue? c = some v → Harmless c := by
    intro c v hv
    exact harmless_of_test (p := fun c => (Json.Reader.hexValue? c).isSome) (by simp [hv])
      (by decide)
  simp only [Json.Reader.hex4?, Option.bind_eq_bind, Option.bind_eq_some_iff] at h
  obtain ⟨_, h₁, _, h₂, _, h₃, _, h₄, -⟩ := h
  simp only [List.forall_mem_cons]
  exact ⟨hdigit _ _ h₁, hdigit _ _ h₂, hdigit _ _ h₃, hdigit _ _ h₄, List.forall_mem_nil _⟩

end Page

namespace Json

open Page
open Reader (hex4? shortEscape?)

/-! ### Strings -/

theorem spells_escapeScriptChar {c : Char} (hc : IsPlain c) : Spells (escapeScriptChar c) [c] := by
  unfold escapeScriptChar
  split
  · rename_i h
    exact h ▸ .unit (n := 0x3c) (by decide) (by decide) .nil
  split
  · rename_i h
    exact h ▸ .unit (n := 0x3e) (by decide) (by decide) .nil
  split
  · rename_i h
    exact h ▸ .unit (n := 0x26) (by decide) (by decide) .nil
  · exact .plain hc .nil

theorem Spells.escaped {written text : List Char} (h : Spells written text) :
    Spells (written.flatMap escapeScriptChar) text := by
  have hslash : Harmless '\\' := by
    unfold Harmless
    decide
  have hu : Harmless 'u' := by
    unfold Harmless
    decide
  have hunit : ∀ {h₁ h₂ h₃ h₄ : Char} {n : Nat}, hex4? h₁ h₂ h₃ h₄ = some n →
      ∀ c ∈ ['\\', 'u', h₁, h₂, h₃, h₄], Harmless c := fun hn =>
    List.forall_mem_cons.mpr ⟨hslash, List.forall_mem_cons.mpr ⟨hu, harmless_of_hex4? hn⟩⟩
  induction h with
  | nil => exact .nil
  | plain hc _ ih =>
    rw [List.flatMap_cons]
    exact (spells_escapeScriptChar hc).append ih
  | @short letter c written text hc _ ih =>
    have hletter : Harmless letter :=
      harmless_of_test (p := fun c => (shortEscape? c).isSome) (by simp [hc]) (by decide)
    have hwritten := escaped_append
      (List.forall_mem_cons.mpr ⟨hslash, List.forall_mem_singleton.mpr hletter⟩) written
    exact hwritten ▸ .short hc ih
  | unit hn hc _ ih => exact escaped_append (hunit hn) _ ▸ .unit hn hc ih
  | @pair h₁ h₂ h₃ h₄ l₁ l₂ l₃ l₄ c high low written text hhigh hlow hc _ ih =>
    have hwritten := escaped_append (List.forall_mem_append.mpr ⟨hunit hhigh, hunit hlow⟩) written
    exact hwritten ▸ .pair hhigh hlow hc ih

theorem SpellsName.escaped {cs : List Char} {name : String} (h : SpellsName cs name) :
    SpellsName (cs.flatMap escapeScriptChar) name := by
  have hquote : escapeScriptChar '"' = ['"'] := by decide
  cases h with
  | quoted hlead hwritten htail =>
    rw [escaped_append (harmless_of_areSpaces hlead), List.flatMap_cons, hquote,
      List.flatMap_append, List.flatMap_cons, hquote,
      escaped_of_harmless (harmless_of_areSpaces htail)]
    exact .quoted hlead hwritten.escaped htail

/-! ### Values -/

theorem escaped_separated (xs : List (List Char)) :
    (separated [','] xs).flatMap escapeScriptChar =
      separated [','] (xs.map (·.flatMap escapeScriptChar)) := by
  have hcomma : [','].flatMap escapeScriptChar = [','] := by decide
  induction xs with
  | nil => rfl
  | cons x xs ih =>
    cases xs with
    | nil => rfl
    | cons y ys => simp only [separated, List.map_cons, List.flatMap_append, hcomma, ih]

/-- Brackets stay around what is escaped. -/
theorem escaped_bracketed {opening closing : Char} (hopening : Harmless opening)
    (hclosing : Harmless closing) (cs : List Char) :
    (opening :: (cs ++ [closing])).flatMap escapeScriptChar =
      opening :: (cs.flatMap escapeScriptChar ++ [closing]) := by
  rw [List.flatMap_cons, List.flatMap_append, escapeScriptChar_of_harmless hopening,
    escaped_of_harmless (List.forall_mem_singleton.mpr hclosing)]
  rfl

/-- An item with its text escaped. -/
def Item.escaped (item : Item) : Item := ⟨item.text.flatMap escapeScriptChar, item.value⟩

/-- A field with its texts escaped. -/
def Member.escaped (m : Member) : Member :=
  ⟨m.nameText.flatMap escapeScriptChar, m.name, m.text.flatMap escapeScriptChar, m.value⟩

theorem Member.written_comp_escaped :
    written ∘ escaped = (·.flatMap escapeScriptChar) ∘ written := by
  have hcolon : escapeScriptChar ':' = [':'] := by decide
  funext m
  simp only [Function.comp_apply, written, escaped, List.flatMap_append, List.flatMap_cons, hcolon,
    List.singleton_append]

/-- **The escaped form of a JSON text denotes the same value.** -/
theorem Denotes.escaped {cs : List Char} {v : Json} (h : Denotes cs v) :
    Denotes (cs.flatMap escapeScriptChar) v := by
  have hmarks : ∀ c ∈ ['"', '[', ']', '\x7b', '\x7d'], Harmless c := by simp [Harmless]
  simp only [List.forall_mem_cons] at hmarks
  obtain ⟨hquote, hopenList, hcloseList, hopenObject, hcloseObject, -⟩ := hmarks
  -- every rule of the grammar is used again, only for the strings with other texts
  induction h with
  | null => exact .null
  | true => exact .true
  | false => exact .false
  | num h =>
    rw [escaped_of_harmless (harmless_of_spellsNumeral h)]
    exact .num h
  | str h =>
    rw [escaped_bracketed hquote hquote]
    exact .str h.escaped
  | emptyArr h =>
    rw [escaped_bracketed hopenList hcloseList, escaped_of_harmless (harmless_of_areSpaces h)]
    exact .emptyArr h
  | @arr items hne _ ih =>
    have hitems : ∀ item ∈ items.map Item.escaped, Denotes item.text item.value :=
      List.forall_mem_map.mpr ih
    have harr := Denotes.arr (mt List.map_eq_nil_iff.mp hne) hitems
    rw [List.map_map, List.map_map] at harr
    rw [escaped_bracketed hopenList hcloseList, escaped_separated, List.map_map]
    exact harr
  | emptyObj h =>
    rw [escaped_bracketed hopenObject hcloseObject, escaped_of_harmless (harmless_of_areSpaces h)]
    exact .emptyObj h
  | @obj members hne hnames _ ih =>
    have hescaped : ∀ m ∈ members.map Member.escaped, SpellsName m.nameText m.name :=
      List.forall_mem_map.mpr fun m hm => (hnames m hm).escaped
    have hmembers : ∀ m ∈ members.map Member.escaped, Denotes m.text m.value :=
      List.forall_mem_map.mpr ih
    have hobj := Denotes.obj (mt List.map_eq_nil_iff.mp hne) hescaped hmembers
    rw [List.map_map, List.map_map, Member.written_comp_escaped] at hobj
    rw [escaped_bracketed hopenObject hcloseObject, escaped_separated, List.map_map]
    exact hobj
  | @lead c cs v hc _ ih =>
    have hspace := harmless_of_areSpaces (List.forall_mem_singleton.mpr hc)
    exact escaped_append hspace cs ▸ .lead hc ih
  | @tail c cs v hc _ ih =>
    have hspace := harmless_of_areSpaces (List.forall_mem_singleton.mpr hc)
    rw [List.flatMap_append, escaped_of_harmless hspace]
    exact .tail hc ih

end Json

/-! ### What a payload is -/

open Json (Writable writable_nat writable_int writable_opt writable_list)

namespace Page

theorem writable_responseJson (r : Response) : Writable (responseJson r) := by
  cases r with
  | none => exact .obj (List.forall_mem_singleton.mpr (.str _))
  | keys tokens =>
    refine .obj (List.forall_mem_cons.mpr ⟨.str _, List.forall_mem_singleton.mpr ?_⟩)
    exact writable_list fun token _ => .str token
  | text options => exact .obj (List.forall_mem_cons.mpr ⟨.str _, options.writable_fields⟩)

theorem Trial.writable (t : Trial) : Writable t.toJson := by
  refine .obj (List.forall_mem_append.mpr ⟨List.forall_mem_append.mpr ⟨?_, ?_⟩, ?_⟩)
  · simp only [List.forall_mem_cons]
    exact ⟨writable_nat _, writable_int _, writable_nat _, List.forall_mem_nil _⟩
  · exact t.source.grouping.writable_fields
  · simp only [List.forall_mem_cons]
    exact ⟨.str _, .str _, .str _, writable_responseJson _, writable_opt writable_nat _,
      writable_opt .str _, writable_opt Feedback.writable _, writable_opt writable_nat _, .str _,
      .str _, List.forall_mem_nil _⟩

theorem Settings.writable (s : Settings) : Writable s.toJson := by
  refine .obj ?_
  simp only [List.forall_mem_cons]
  exact ⟨.bool _, writable_nat _, writable_opt .str _, writable_nat _,
    writable_opt writable_nat _, .str _, List.forall_mem_nil _⟩

theorem Payload.writable (p : Payload) : Writable p.toJson := by
  refine .obj ?_
  simp only [List.forall_mem_cons]
  exact ⟨writable_list fun t _ => t.writable, writable_list fun source _ => .str source,
    p.settings.writable, List.forall_mem_nil _⟩

end Page

end TimedTrials
