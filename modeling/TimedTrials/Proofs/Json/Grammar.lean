/-
  TimedTrials/Proofs/Json/Grammar.lean
  ====================================
  **Which texts are JSON, and which values they denote.**

  The grammar of JSON as a relation between texts and values. A text may have blanks around it
  wherever a value stands; a string may be spelled with escapes or without; the same value so
  has many texts. Nothing here scans a text: the reader and the printer are held against this
  relation.
-/
import TimedTrials.Json.Printer
import TimedTrials.Json.Reader

namespace TimedTrials

open Json (separated)

/-! ### Numerals -/

/-- One digit at least, and nothing else. -/
def AreDigits (cs : List Char) : Prop := cs ≠ [] ∧ ∀ c ∈ cs, c.isDigit = true

/-- The digits before the point: no zero stands in front of others. -/
def IsWhole (cs : List Char) : Prop := AreDigits cs ∧ (cs.head? = some '0' → cs = ['0'])

/-- The written forms of a fraction. -/
inductive SpellsFraction : List Char → Option (List Char) → Prop where
  | absent : SpellsFraction [] none
  | present {ds : List Char} (hds : AreDigits ds) : SpellsFraction ('.' :: ds) (some ds)

/-- The written forms of an exponent: either letter, and a plus sign or none. -/
inductive SpellsExponent : List Char → Option (Bool × List Char) → Prop where
  | absent : SpellsExponent [] none
  | unsigned {e : Char} {ds : List Char} (he : e = 'e' ∨ e = 'E') (hds : AreDigits ds) :
      SpellsExponent (e :: ds) (some (false, ds))
  | positive {e : Char} {ds : List Char} (he : e = 'e' ∨ e = 'E') (hds : AreDigits ds) :
      SpellsExponent (e :: '+' :: ds) (some (false, ds))
  | negative {e : Char} {ds : List Char} (he : e = 'e' ∨ e = 'E') (hds : AreDigits ds) :
      SpellsExponent (e :: '-' :: ds) (some (true, ds))

/-- The sign of a numeral. -/
def signChars (negative : Bool) : List Char := if negative then ['-'] else []

/-- The written forms of a numeral. -/
inductive SpellsNumeral : List Char → Numeral → Prop where
  | parts {negative : Bool} {whole fractionText exponentText : List Char}
      {fraction : Option (List Char)} {exponent : Option (Bool × List Char)}
      (hwhole : IsWhole whole) (hfraction : SpellsFraction fractionText fraction)
      (hexponent : SpellsExponent exponentText exponent) :
      SpellsNumeral (signChars negative ++ (whole ++ (fractionText ++ exponentText)))
        ⟨negative, whole, fraction, exponent⟩

namespace Json

open Reader (isSpace hex4? scalar? pair? shortEscape?)

/-! ### Strings -/

/-- A character that stands for itself in a string. -/
def IsPlain (c : Char) : Prop := 0x20 ≤ c.toNat ∧ c ≠ '"' ∧ c ≠ '\\'

/-- The texts between the quotes of a string, each with the text that it stands for. -/
inductive Spells : List Char → List Char → Prop where
  | nil : Spells [] []
  | plain {c : Char} {written text : List Char} (hc : IsPlain c) (hrest : Spells written text) :
      Spells (c :: written) (c :: text)
  | short {letter c : Char} {written text : List Char} (hc : shortEscape? letter = some c)
      (hrest : Spells written text) : Spells ('\\' :: letter :: written) (c :: text)
  | unit {h₁ h₂ h₃ h₄ c : Char} {n : Nat} {written text : List Char}
      (hn : hex4? h₁ h₂ h₃ h₄ = some n) (hc : scalar? n = some c) (hrest : Spells written text) :
      Spells ('\\' :: 'u' :: h₁ :: h₂ :: h₃ :: h₄ :: written) (c :: text)
  | pair {h₁ h₂ h₃ h₄ l₁ l₂ l₃ l₄ c : Char} {high low : Nat} {written text : List Char}
      (hhigh : hex4? h₁ h₂ h₃ h₄ = some high) (hlow : hex4? l₁ l₂ l₃ l₄ = some low)
      (hc : pair? high low = some c) (hrest : Spells written text) :
      Spells ('\\' :: 'u' :: h₁ :: h₂ :: h₃ :: h₄ :: '\\' :: 'u' :: l₁ :: l₂ :: l₃ :: l₄ :: written)
        (c :: text)

/-- Nothing but blanks. -/
def AreSpaces (cs : List Char) : Prop := ∀ c ∈ cs, isSpace c = true

/-- A string in quotes, with blanks around it. -/
inductive SpellsName : List Char → String → Prop where
  | quoted {lead written text tail : List Char} (hlead : AreSpaces lead)
      (hwritten : Spells written text) (htail : AreSpaces tail) :
      SpellsName (lead ++ '"' :: (written ++ '"' :: tail)) (String.ofList text)

/-! ### Values -/

/-- An item of a list, as text and as value. -/
structure Item where
  text : List Char
  value : Json

/-- A field of an object, as text and as value. -/
structure Member where
  nameText : List Char
  name : String
  text : List Char
  value : Json

def Member.written (m : Member) : List Char := m.nameText ++ ':' :: m.text

/-- The texts that are JSON, each with the value that it denotes. -/
inductive Denotes : List Char → Json → Prop where
  | null : Denotes ['n', 'u', 'l', 'l'] .null
  | true : Denotes ['t', 'r', 'u', 'e'] (.bool true)
  | false : Denotes ['f', 'a', 'l', 's', 'e'] (.bool false)
  | num {cs : List Char} {n : Numeral} (h : SpellsNumeral cs n) : Denotes cs (.num n)
  | str {written text : List Char} (h : Spells written text) :
      Denotes ('"' :: (written ++ ['"'])) (.str (String.ofList text))
  | emptyArr {spaces : List Char} (h : AreSpaces spaces) :
      Denotes ('[' :: (spaces ++ [']'])) (.arr [])
  | arr {items : List Item} (hne : items ≠ []) (h : ∀ item ∈ items, Denotes item.text item.value) :
      Denotes ('[' :: (separated [','] (items.map (·.text)) ++ [']'])) (.arr (items.map (·.value)))
  | emptyObj {spaces : List Char} (h : AreSpaces spaces) :
      Denotes ('\x7b' :: (spaces ++ ['\x7d'])) (.obj [])
  | obj {members : List Member} (hne : members ≠ [])
      (hnames : ∀ m ∈ members, SpellsName m.nameText m.name)
      (h : ∀ m ∈ members, Denotes m.text m.value) :
      Denotes ('\x7b' :: (separated [','] (members.map Member.written) ++ ['\x7d']))
        (.obj (members.map fun m => (m.name, m.value)))
  | lead {c : Char} {cs : List Char} {v : Json} (hc : isSpace c = true) (h : Denotes cs v) :
      Denotes (c :: cs) v
  | tail {c : Char} {cs : List Char} {v : Json} (hc : isSpace c = true) (h : Denotes cs v) :
      Denotes (cs ++ [c]) v

end Json

end TimedTrials
