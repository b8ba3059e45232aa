/-
  TimedTrials/Proofs/Trial/TextOptions.lean
  =========================================
  **The options of a text entry are read back, however they are written.**

  An author lists the options of a text entry by name, in any order and any case of the letters,
  with blanks wherever they like, and among them may be tokens that name no option. The list runs
  from the first opening to the last closing parenthesis, so that a placeholder may hold
  parentheses; its name ends at the first equals sign, so that it may hold equals signs, too.

  One listed option sets its value or is reported (`takeOption_setting`, `takeOption_other`), and
  from there a whole list does (`foldl_takeOption`). What is set comes out the same in any order,
  for options of different names have nothing to do with each other (`foldl_set_of_perm`).
-/
import Mathlib.Data.List.Forall2
import TimedTrials.Proofs.Number.Numerals
import TimedTrials.Proofs.Text.LetterCase
import TimedTrials.Trial.Response

namespace TimedTrials

open Text (Padded SameLetters Unblanked)

namespace TextEntry

/-! ### What is written -/

/-- An option that is given. -/
inductive Setting where
  | placeholder (text : String)
  | maxLength (n : Nat)
  | widthPx (n : Nat)
deriving DecidableEq, Repr

namespace Setting

/-- The names of the options. -/
def names : List String := ["placeholder", "maxlength", "width"]

def name : Setting → String
  | .placeholder _ => "placeholder"
  | .maxLength _ => "maxlength"
  | .widthPx _ => "width"

/-- The written form of the value. -/
def value : Setting → List Char
  | .placeholder text => text.toList
  | .maxLength n => Number.natDigits n
  | .widthPx n => Number.natDigits n

def text (s : Setting) : List Char := s.name.toList ++ '=' :: s.value

/-- The options with this one set. -/
def set (entry : TextEntry) : Setting → TextEntry
  | .placeholder text => { entry with placeholder := some text }
  | .maxLength n => { entry with maxLength := some n }
  | .widthPx n => { entry with widthPx := some n }

end Setting

/-- The options that are given; absent ones are left out. -/
def settings (entry : TextEntry) : List Setting :=
  (entry.placeholder.map .placeholder).toList ++ (entry.maxLength.map .maxLength).toList ++
    (entry.widthPx.map .widthPx).toList

/-- The plain way to write the options of a text entry in a cell. -/
def written (entry : TextEntry) : String :=
  String.ofList <| match entry.settings with
  | [] => "[text]".toList
  | settings => "[text(".toList ++ [',', ' '].intercalate (settings.map Setting.text) ++ ")]".toList

/-- An option that a list can hold: a placeholder without commas that has neither blanks nor
    quotes at its ends, or a count of 32 bits. -/
inductive Setting.Expressible : Setting → Prop where
  | placeholder {text : String} (hcomma : ',' ∉ text.toList) (hunblanked : Unblanked text.toList)
      (hhead : ∀ c ∈ text.toList.head?, isQuote c = false)
      (hlast : ∀ c ∈ text.toList.getLast?, isQuote c = false) : Expressible (.placeholder text)
  | maxLength {n : Nat} (hsmall : n ≤ Number.max32) : Expressible (.maxLength n)
  | widthPx {n : Nat} (hsmall : n ≤ Number.max32) : Expressible (.widthPx n)

/-- Options that a cell can hold. -/
def Expressible (entry : TextEntry) : Prop := ∀ s ∈ entry.settings, s.Expressible

/-- A token that names no option. -/
structure IsOther (token : List Char) : Prop where
  nonempty : token ≠ []
  unblanked : Unblanked token
  comma : ',' ∉ token
  name : ∀ before after, token = before ++ '=' :: after → '=' ∉ before →
    ∀ name ∈ Setting.names, ¬ SameLetters (Text.trimChars before) name.toList

/-- What is listed between two commas. -/
inductive Listed where
  | setting (s : Setting)
  | other (token : List Char)
deriving DecidableEq, Repr

namespace Listed

def setting? : Listed → Option Setting
  | .setting s => some s
  | .other _ => none

def other? : Listed → Option String
  | .setting _ => none
  | .other token => some (String.ofList token)

/-- How it may be written there: the name of an option in any case of its letters, and blanks
    around everything. -/
inductive Spells : Listed → List Char → Prop where
  | setting {s : Setting} {name left right : List Char} (hs : s.Expressible)
      (hname : SameLetters name s.name.toList) (hleft : Padded name left) (hright : Padded s.value right) :
      Spells (.setting s) (left ++ '=' :: right)
  | other {token piece : List Char} (htoken : IsOther token) (hpiece : Padded token piece) :
      Spells (.other token) piece

end Listed

/-- The cell of a text entry with the given list; without parentheses if nothing is listed. -/
inductive SpellsCell (listed : List Listed) : List Char → Prop where
  | bare (hnone : listed = []) : SpellsCell listed "[text]".toList
  | listed {pieces : List (List Char)} (hpieces : List.Forall₂ Listed.Spells listed pieces) :
      SpellsCell listed ("[text(".toList ++ [','].intercalate pieces ++ ")]".toList)

/-! ### One option -/

variable {s : Setting} {token piece : List Char} {pieces : List (List Char)}
  {entry : Listed} {listed : List Listed} {state : Reading TextEntry}

namespace Setting

theorem name_mem (s : Setting) : s.name ∈ names := by
  cases s <;> simp [name, names]

theorem ownSmall_of_mem_names {name : String} (h : name ∈ names) :
    ∀ d ∈ name.toList, Text.OwnSmall d := by
  simp only [names, List.mem_cons, List.not_mem_nil, or_false] at h
  rcases h with rfl | rfl | rfl <;> decide

theorem ownSmall_name (s : Setting) : ∀ d ∈ s.name.toList, Text.OwnSmall d :=
  ownSmall_of_mem_names s.name_mem

namespace Expressible

theorem comma (h : s.Expressible) : ',' ∉ s.value := by
  cases h with
  | placeholder hcomma => exact hcomma
  | maxLength => exact Number.natDigits_ne (by decide)
  | widthPx => exact Number.natDigits_ne (by decide)

theorem unblanked (h : s.Expressible) : Unblanked s.value := by
  have hdigits : ∀ n, Unblanked (Number.natDigits n) := fun n =>
    ⟨fun c hc => Number.isBlank_of_isDigit (Number.isDigit_natDigits (List.mem_of_mem_head? hc)),
      fun c hc => Number.isBlank_of_isDigit
        (Number.isDigit_natDigits (List.mem_of_mem_getLast? hc))⟩
  cases h with
  | placeholder _ hunblanked => exact hunblanked
  | maxLength => exact hdigits _
  | widthPx => exact hdigits _

/-- Quotes around a value would be taken off; there are none. -/
theorem unquoted (h : s.Expressible) : Text.stripEnds isQuote s.value = s.value := by
  have hdigits : ∀ n, ∀ c ∈ Number.natDigits n, isQuote c = false := by
    intro n c hc
    rw [← Bool.not_eq_true]
    intro hquote
    rw [isQuote, Bool.or_eq_true, beq_iff_eq, beq_iff_eq] at hquote
    rcases hquote with rfl | rfl <;> exact Number.natDigits_ne (by decide) hc
  cases h with
  | placeholder _ _ hhead hlast => exact Text.stripEnds_of_ends hhead hlast
  | maxLength => exact Text.stripEnds_eq_self (hdigits _)
  | widthPx => exact Text.stripEnds_eq_self (hdigits _)

end Expressible

end Setting

/-- **A listed option is set**, in whatever way it is written. -/
theorem takeOption_setting (h : (Listed.setting s).Spells piece) :
    takeOption state (Text.trimChars piece) = ⟨s.set state.value, state.ignored⟩ := by
  cases h with
  | @setting _ name left right hs hname hleft hright =>
    obtain ⟨front, back, htoken, hsuffix, hfront, hback⟩ :=
      Text.exists_trimChars_cons (x := '=') (by decide) left right
    have hequals : '=' ∉ left :=
      hleft.not_mem (by decide) (hname.not_mem s.ownSmall_name (by decide))
    have hcut : Text.cutAt? (· == '=') (Text.trimChars (left ++ '=' :: right)) =
        some (front, '=', back) :=
      Text.cutAt?_beq_eq_some_iff.mpr ⟨htoken, fun hmem => hequals (hsuffix.subset hmem), rfl⟩
    have hlower : String.ofList (Text.lowerChars (Text.trimChars front)) = s.name := by
      rw [hfront, hleft.trimChars_eq (hname.unblanked (Text.unblanked_of_ownSmall s.ownSmall_name)),
        (Text.lowerChars_eq_iff s.ownSmall_name).mpr hname, String.ofList_toList]
    have hvalue : Text.stripEnds isQuote (Text.trimChars back) = s.value := by
      rw [hback, hright.trimChars_eq hs.unblanked, hs.unquoted]
    simp only [takeOption, hcut, hlower, hvalue]
    cases hs with
    | placeholder =>
      simp [Setting.name, Setting.value, Setting.set]
    | maxLength hsmall =>
      simp [Setting.name, Setting.value, Setting.set, Number.readNat?_natDigits hsmall]
    | widthPx hsmall =>
      simp [Setting.name, Setting.value, Setting.set, Number.readNat?_natDigits hsmall]

/-- **A token that names no option is reported** and changes nothing else. -/
theorem takeOption_other (h : IsOther token) :
    takeOption state token = ⟨state.value, state.ignored ++ [String.ofList token]⟩ := by
  unfold takeOption
  cases hcut : Text.cutAt? (· == '=') token with
  | none => rfl
  | some parts =>
    obtain ⟨before, stop, after⟩ := parts
    obtain ⟨htoken, hequals, rfl⟩ := Text.cutAt?_beq_eq_some_iff.mp hcut
    have hname : ∀ name ∈ Setting.names,
        String.ofList (Text.lowerChars (Text.trimChars before)) ≠ name := by
      intro name hname hsame
      refine h.name before after htoken hequals name hname ?_
      rw [← Text.lowerChars_eq_iff (Setting.ownSmall_of_mem_names hname), ← hsame,
        String.toList_ofList]
    simp only [Setting.names, List.forall_mem_cons] at hname
    simp only [hname.1, hname.2.1, hname.2.2.1, if_false]

/-! ### A list of them -/

theorem Listed.Spells.token_ne_nil (h : entry.Spells piece) :
    Text.trimChars piece ≠ [] := by
  cases h with
  | @setting s name left right hs hname hleft hright =>
    obtain ⟨front, back, htoken, -⟩ :=
      Text.exists_trimChars_cons (x := '=') (by decide) left right
    rw [htoken]
    exact List.append_ne_nil_of_right_ne_nil _ (List.cons_ne_nil _ _)
  | other htoken hpiece =>
    rw [hpiece.trimChars_eq htoken.unblanked]
    exact htoken.nonempty

theorem Listed.Spells.comma (h : entry.Spells piece) : ',' ∉ piece := by
  cases h with
  | @setting s name left right hs hname hleft hright =>
    have hleft' : ',' ∉ left :=
      hleft.not_mem (by decide) (hname.not_mem s.ownSmall_name (by decide))
    have hright' : ',' ∉ right := hright.not_mem (by decide) hs.comma
    rw [List.mem_append, List.mem_cons, not_or, not_or]
    exact ⟨hleft', by decide, hright'⟩
  | other htoken hpiece => exact hpiece.not_mem (by decide) htoken.comma

/-- The tokens of a list are what was listed, without the blanks around it. -/
theorem tokens_intercalate (hpieces : List.Forall₂ Listed.Spells listed pieces) :
    tokens ([','].intercalate pieces) = pieces.map Text.trimChars := by
  have hall : ∀ piece ∈ pieces, ',' ∉ piece ∧ Text.trimChars piece ≠ [] := by
    induction hpieces with
    | nil => exact List.forall_mem_nil _
    | cons hentry _ ih =>
      exact List.forall_mem_cons.mpr ⟨⟨hentry.comma, hentry.token_ne_nil⟩, ih⟩
  cases pieces with
  | nil => rfl
  | cons first rest =>
    rw [tokens, List.splitOn_intercalate ',' (fun piece hpiece => (hall piece hpiece).1)
      (List.cons_ne_nil _ _), List.filter_eq_self]
    intro token htoken
    obtain ⟨piece, hpiece, rfl⟩ := List.mem_map.mp htoken
    simp [(hall piece hpiece).2]

/-- **A list is read option by option.** -/
theorem foldl_takeOption (hpieces : List.Forall₂ Listed.Spells listed pieces)
    (state : Reading TextEntry) :
    (pieces.map Text.trimChars).foldl takeOption state =
      ⟨(listed.filterMap Listed.setting?).foldl Setting.set state.value,
        state.ignored ++ listed.filterMap Listed.other?⟩ := by
  induction hpieces generalizing state with
  | nil => simp
  | @cons entry piece listed pieces hentry _ ih =>
    cases entry with
    | setting s =>
      rw [List.map_cons, List.foldl_cons, takeOption_setting hentry, ih]
      rfl
    | other token =>
      have htoken : IsOther token ∧ Text.trimChars piece = token := by
        cases hentry with
        | other htoken hpiece => exact ⟨htoken, hpiece.trimChars_eq htoken.unblanked⟩
      rw [List.map_cons, List.foldl_cons, htoken.2, takeOption_other htoken.1, ih,
        List.append_assoc]
      rfl

/-- Options come out as they were given, in whatever order they are set. -/
theorem foldl_set_of_perm {options : TextEntry} {given : List Setting}
    (h : given.Perm options.settings) : given.foldl Setting.set .plain = options := by
  have hcomm : ∀ a ∈ given, ∀ b ∈ given, ∀ e : TextEntry,
      Setting.set (Setting.set e a) b = Setting.set (Setting.set e b) a := by
    -- options of one name are one option, and others are kept in different places
    intro a ha b hb e
    rw [h.mem_iff] at ha hb
    cases a <;> cases b <;> simp_all [settings, Setting.set]
  rw [h.foldl_eq' hcomm]
  obtain ⟨placeholder, maxLength, widthPx⟩ := options
  cases placeholder <;> cases maxLength <;> cases widthPx <;> rfl

/-! ### The cell -/

/-- The list of options runs up to the last closing parenthesis, whatever it holds. -/
theorem read_listed (body : List Char) :
    read ("[text(".toList ++ body ++ ")]".toList) = (tokens body).foldl takeOption ⟨plain, []⟩ := by
  have hopen : Text.cutAt? (· == '(') ("[text(".toList ++ body ++ ")]".toList) =
      some ("[text".toList, '(', body ++ [')', ']']) :=
    Text.cutAt?_beq_eq_some_iff.mpr ⟨by simp, by decide, rfl⟩
  have hclose : Text.cutLast? ')' (body ++ [')', ']']) = some (body, [']']) := by
    have hcut : Text.cutAt? (· == ')') (body ++ [')', ']']).reverse =
        some ([']'], ')', body.reverse) :=
      Text.cutAt?_beq_eq_some_iff.mpr ⟨by simp, by decide, rfl⟩
    rw [Text.cutLast?, hcut]
    simp
  simp only [read, hopen, hclose]

/-- What is listed in a cell is read, in any order: every option that is given is set, and what
    names no option is reported. -/
theorem read_of_spellsCell {options : TextEntry} {cell : List Char}
    (hlisted : (listed.filterMap Listed.setting?).Perm options.settings)
    (hcell : SpellsCell listed cell) :
    read cell = ⟨options, listed.filterMap Listed.other?⟩ := by
  have hset := foldl_set_of_perm hlisted
  cases hcell with
  | bare hnone =>
    subst hnone
    rw [← hset]
    rfl
  | listed hpieces =>
    rw [read_listed, tokens_intercalate hpieces, foldl_takeOption hpieces, hset, List.nil_append]

theorem SpellsCell.exists_eq {cell : List Char} (h : SpellsCell listed cell) :
    ∃ inner, cell = Response.textMark ++ (inner ++ [']']) := by
  cases h with
  | bare => exact ⟨[], rfl⟩
  | @listed pieces =>
    exact ⟨'(' :: [','].intercalate pieces ++ [')'], by simp [Response.textMark]⟩

/-! ### The plain way to write them -/

theorem spells_text (hs : s.Expressible) : (Listed.setting s).Spells s.text :=
  .setting hs rfl (Text.padded_self _) (Text.padded_self _)

theorem Listed.Spells.after_blank (h : entry.Spells piece) : entry.Spells ([' '] ++ piece) := by
  have hblank : ∀ {word cs : List Char}, Padded word cs → Padded word ([' '] ++ cs) := by
    intro word cs hcs
    have haround : Padded word ([' '] ++ cs ++ []) :=
      hcs.around (by decide) (List.forall_mem_nil _)
    rwa [List.append_nil] at haround
  cases h with
  | setting hs hname hleft hright =>
    rw [← List.append_assoc]
    exact .setting hs hname (hblank hleft) hright
  | other htoken hpiece => exact .other htoken (hblank hpiece)

theorem intercalate_blanked (piece : List Char) (pieces : List (List Char)) :
    [',', ' '].intercalate (piece :: pieces) =
      [','].intercalate (piece :: pieces.map ([' '] ++ ·)) := by
  induction pieces generalizing piece with
  | nil => rfl
  | cons next pieces ih =>
    rw [List.intercalate_cons_cons, ih, List.map_cons, List.intercalate_cons_cons,
      List.singleton_append, List.intercalate_cons_cons_left, List.append_assoc, List.append_assoc]
    rfl

theorem Expressible.spellsCell_written {options : TextEntry} (h : options.Expressible) :
    SpellsCell (options.settings.map .setting) options.written.toList := by
  rw [written, String.toList_ofList]
  rw [Expressible] at h
  generalize options.settings = given at h
  cases given with
  | nil => exact .bare rfl
  | cons s given =>
    rw [List.forall_mem_cons] at h
    simp only [List.map_cons, intercalate_blanked]
    refine .listed (.cons (spells_text h.1) ?_)
    rw [List.map_map, List.forall₂_map_left_iff, List.forall₂_map_right_iff, List.forall₂_same]
    exact fun s hs => (spells_text (h.2 s hs)).after_blank

end TextEntry

namespace Response

open TextEntry (Listed SpellsCell)

/-- A cell that begins with the mark of a text entry is read as one. -/
theorem read_of_mark {raw : String} {inner : List Char}
    (hraw : Padded (textMark ++ (inner ++ [']'])) raw.toList) :
    read raw =
      let entry := TextEntry.read (textMark ++ (inner ++ [']']))
      ⟨.text entry.value, entry.ignored⟩ := by
  have hmark : textMark ++ (inner ++ [']']) = '[' :: ("text".toList ++ (inner ++ [']'])) := rfl
  have hunblanked : Unblanked (textMark ++ (inner ++ [']'])) := by
    constructor
    · rw [hmark]
      rintro c ⟨⟩
      decide
    · rw [← List.append_assoc, List.getLast?_concat]
      rintro c ⟨⟩
      decide
  have htrim : Text.trimChars raw.toList = textMark ++ (inner ++ [']']) :=
    hraw.trimChars_eq hunblanked
  have hna : isNA raw = false := by
    rw [isNA, Text.trim, htrim, hmark, Text.lowerAscii, String.toList_ofList, beq_eq_false_iff_ne]
    intro hsame
    have hfirst : some (Text.lowerAsciiChar '[') = some 'n' := by
      simpa using congrArg (fun s : String => s.toList.head?) hsame
    exact absurd hfirst (by decide)
  have hne : (textMark ++ (inner ++ [']'])).isEmpty = false := rfl
  simp only [read, htrim, hna, hne, Text.dropHead?_append, Option.isSome_some, Bool.or_self,
    Bool.false_eq_true, if_false, if_true]

/-- **Text-entry options are read back.** -/
theorem read_text_options {options : TextEntry} (h : options.Expressible) :
    read options.written = ⟨.text options, []⟩ ∧
      ∀ {listed : List Listed} {cell : List Char} {raw : String},
        (listed.filterMap Listed.setting?).Perm options.settings → SpellsCell listed cell →
          Padded cell raw.toList → read raw = ⟨.text options, listed.filterMap Listed.other?⟩ := by
  have hread : ∀ {listed : List Listed} {cell : List Char} {raw : String},
      (listed.filterMap Listed.setting?).Perm options.settings → SpellsCell listed cell →
        Padded cell raw.toList →
          read raw = ⟨.text options, listed.filterMap Listed.other?⟩ := by
    intro listed cell raw hlisted hcell hraw
    obtain ⟨inner, rfl⟩ := hcell.exists_eq
    rw [read_of_mark hraw, TextEntry.read_of_spellsCell hlisted hcell]
  refine ⟨?_, hread⟩
  have hsettings : (options.settings.map Listed.setting).filterMap Listed.setting? =
      options.settings := by
    rw [List.filterMap_map]
    exact List.filterMap_some
  have hothers : (options.settings.map Listed.setting).filterMap Listed.other? = [] := by
    rw [List.filterMap_map, List.filterMap_eq_nil_iff]
    exact fun _ _ => rfl
  have hwritten := hread (List.Perm.of_eq hsettings) h.spellsCell_written
    (Text.padded_self _)
  rw [hothers] at hwritten
  exact hwritten

/-- A placeholder with a parenthesis, a bracket, a quote and an equals sign in it. -/
def trickyOptions : TextEntry := ⟨some "a=(b) it's [d", some 12, Option.none⟩

/-- Its options, the last one first, and a token between them that names none. -/
def shuffledOptions : List Listed :=
  [.setting (.maxLength 12), .other "colour=(red)".toList, .setting (.placeholder "a=(b) it's [d")]

/-- Their pieces, in other letters and with blanks. -/
def shuffledPieces : List (List Char) :=
  [" MaxLength = 12 ".toList, "colour=(red)".toList, " PLACEHOLDER=\ta=(b) it's [d ".toList]

theorem read_text_options_shuffled :
    trickyOptions.Expressible ∧
      (shuffledOptions.filterMap Listed.setting?).Perm trickyOptions.settings ∧
      List.Forall₂ Listed.Spells shuffledOptions shuffledPieces ∧
      read "[text(placeholder=a=(b) it's [d, maxlength=12)]" = ⟨.text trickyOptions, []⟩ ∧
      read " [text( MaxLength = 12 ,colour=(red), PLACEHOLDER=\ta=(b) it's [d )]\n" =
        ⟨.text trickyOptions, ["colour=(red)"]⟩ := by
  have hplaceholder : (TextEntry.Setting.placeholder "a=(b) it's [d").Expressible :=
    .placeholder (by decide) ⟨by decide, by decide⟩ (by decide) (by decide)
  have hmaxLength : (TextEntry.Setting.maxLength 12).Expressible := .maxLength (by decide)
  have hoptions : trickyOptions.Expressible := by
    intro option hoption
    obtain rfl | rfl := List.mem_pair.mp hoption
    · exact hplaceholder
    · exact hmaxLength
  have hperm : (shuffledOptions.filterMap Listed.setting?).Perm trickyOptions.settings := by decide
  have hother : TextEntry.IsOther "colour=(red)".toList := by
    refine ⟨by decide, ⟨by decide, by decide⟩, by decide, ?_⟩
    intro before after htoken hequals
    have hcut : Text.cutAt? (· == '=') "colour=(red)".toList = some (before, '=', after) :=
      Text.cutAt?_beq_eq_some_iff.mpr ⟨htoken, hequals, rfl⟩
    obtain rfl : "colour".toList = before := congrArg Prod.fst (Option.some.inj hcut)
    decide
  have hpieces : List.Forall₂ Listed.Spells shuffledOptions shuffledPieces := by
    refine .cons ?_ (.cons ?_ (.cons ?_ .nil))
    · have hname : SameLetters "MaxLength".toList "maxlength".toList := by decide
      have hleft : Padded "MaxLength".toList " MaxLength ".toList :=
        ⟨[' '], [' '], by decide, by decide, by decide⟩
      have hright : Padded (Number.natDigits 12) " 12 ".toList :=
        ⟨[' '], [' '], by decide, by decide, by decide⟩
      exact .setting hmaxLength hname hleft hright
    · exact .other hother (Text.padded_self _)
    · have hname : SameLetters "PLACEHOLDER".toList "placeholder".toList := by decide
      have hleft : Padded "PLACEHOLDER".toList " PLACEHOLDER".toList :=
        ⟨[' '], [], by decide, by decide, by decide⟩
      have hright : Padded "a=(b) it's [d".toList "\ta=(b) it's [d ".toList :=
        ⟨['\t'], [' '], by decide, by decide, by decide⟩
      exact .setting hplaceholder hname hleft hright
  obtain ⟨hwritten, hread⟩ := read_text_options hoptions
  refine ⟨hoptions, hperm, hpieces, hwritten, hread hperm (.listed hpieces) ?_⟩
  exact ⟨[' '], ['\n'], by decide, by decide, by decide⟩

end Response

end TimedTrials
