/-
  TimedTrials/Json/Printer.lean
  =============================
  **Writing JSON**, compact or laid out with an indent of two blanks.

  A string escapes the quote, the backslash and the controls, and keeps every other character
  as it is; a value that cannot be read is written as a string with half of a surrogate pair,
  which cannot be read either. A double is written with the shortest digits that read back: as a plain decimal
  with at least one fractional digit from `1e-5` up to below `1e16`, and with an exponent
  outside of that range.
-/
import TimedTrials.Json.Basic

namespace TimedTrials

/-! ### Numbers -/

namespace Numeral

/-- Splits a decimal into its digits and the position of the point from the left. -/
def ofDecimal (negative : Bool) (d : Number.Decimal) : Numeral :=
  let digits := Number.natDigits d.digits
  let point : Int := digits.length + d.exponent
  if -5 < point ∧ point ≤ 16 then
    if point ≤ 0 then
      ⟨negative, ['0'], some (List.replicate (-point).toNat '0' ++ digits), none⟩
    else if digits.length ≤ point.toNat then
      ⟨negative, digits ++ List.replicate (point.toNat - digits.length) '0', some ['0'], none⟩
    else
      ⟨negative, digits.take point.toNat, some (digits.drop point.toNat), none⟩
  else
    let fraction := if digits.length = 1 then none else some (digits.drop 1)
    ⟨negative, digits.take 1, fraction, some (decide (point < 1), Number.natDigits (point - 1).natAbs)⟩

/-- The written form of a finite double. -/
def ofFloat (x : Float) : Numeral :=
  let b := Number.Binary64.ofFloat x
  let negative := Number.isNegative x
  if b.significand = 0 then ⟨negative, ['0'], some ['0'], none⟩ else ofDecimal negative b.shortest

end Numeral

namespace Json

/-- A double as a value; what is not finite has no number and becomes `null`. -/
def float (x : Float) : Json := if x.isFinite then .num (Numeral.ofFloat x) else .null

/-! ### Strings -/

/-- The escape for a control character that has no short one. -/
def controlEscape (n : Nat) : List Char :=
  let digits := Nat.toDigits 16 n
  ['\\', 'u'] ++ List.replicate (4 - digits.length) '0' ++ digits

def escapeChar (c : Char) : List Char :=
  if c = '"' then ['\\', '"']
  else if c = '\\' then ['\\', '\\']
  else if c = '\n' then ['\\', 'n']
  else if c = '\r' then ['\\', 'r']
  else if c = '\t' then ['\\', 't']
  else if c.toNat = 8 then ['\\', 'b']
  else if c.toNat = 12 then ['\\', 'f']
  else if c.toNat < 0x20 then controlEscape c.toNat
  else [c]

def quoted (s : String) : List Char := '"' :: s.toList.flatMap escapeChar ++ ['"']

/-- A string that has no text. -/
def halfPair : List Char := '"' :: '\\' :: "ud800\"".toList

/-! ### Compact form -/

/-- The items of a list with a separator between neighbours. -/
def separated (sep : List Char) : List (List Char) → List Char
  | [] => []
  | [x] => x
  | x :: xs => x ++ sep ++ separated sep xs

mutual

def compactChars : Json → List Char
  | .null => "null".toList
  | .bool true => "true".toList
  | .bool false => "false".toList
  | .num n => n.chars
  | .str s => quoted s
  | .arr items => '[' :: separated [','] (compactItems items) ++ [']']
  | .obj fields => '\x7b' :: separated [','] (compactFields fields) ++ ['\x7d']
  | .unreadable => halfPair

def compactItems : List Json → List (List Char)
  | [] => []
  | v :: vs => compactChars v :: compactItems vs

def compactFields : List (String × Json) → List (List Char)
  | [] => []
  | (k, v) :: fs => (quoted k ++ ':' :: compactChars v) :: compactFields fs

end

def compact (v : Json) : String := String.ofList v.compactChars

/-! ### Laid-out form -/

/-- A line break and the indent of a nesting level. -/
def newline (level : Nat) : List Char := '\n' :: List.replicate (2 * level) ' '

/-- Brackets around items, each item on a line of its own; nothing between them if there are
    no items. -/
def bracketed (opening closing : Char) (level : Nat) (items : List (List Char)) : List Char :=
  if items.isEmpty then [opening, closing]
  else opening :: newline (level + 1) ++ separated (',' :: newline (level + 1)) items
    ++ newline level ++ [closing]

mutual

/-- The value at a nesting level, one item or field per line. -/
def prettyChars (level : Nat) : Json → List Char
  | .null => "null".toList
  | .bool true => "true".toList
  | .bool false => "false".toList
  | .num n => n.chars
  | .str s => quoted s
  | .arr items => bracketed '[' ']' level (prettyItems (level + 1) items)
  | .obj fields => bracketed '\x7b' '\x7d' level (prettyFields (level + 1) fields)
  | .unreadable => halfPair

def prettyItems (level : Nat) : List Json → List (List Char)
  | [] => []
  | v :: vs => prettyChars level v :: prettyItems level vs

def prettyFields (level : Nat) : List (String × Json) → List (List Char)
  | [] => []
  | (k, v) :: fs => (quoted k ++ ": ".toList ++ prettyChars level v) :: prettyFields level fs

end

def pretty (v : Json) : String := String.ofList (v.prettyChars 0)

end Json

end TimedTrials
