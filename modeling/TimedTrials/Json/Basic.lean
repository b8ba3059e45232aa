/-
  TimedTrials/Json/Basic.lean
  ===========================
  **JSON values**, with numbers kept as they are written.

  A number keeps its digits, so that a whole number of any size survives and a fraction is
  only rounded when a field asks for a double. An object keeps its fields in order,
  duplicates included; it is the reader of a record that refuses duplicates.

  An escape for half of a surrogate pair stands for no character. A string with one that is
  not in a pair is well formed and can be passed over, but it has no text to be read.
-/
import TimedTrials.Number.Binary64

namespace TimedTrials

/-! ### Numerals -/

/-- A number as it is written: an optional minus sign, the digits before the point, the digits
    behind it if there is a point, and the exponent if there is one. -/
structure Numeral where
  negative : Bool
  whole : List Char
  fraction : Option (List Char)
  exponent : Option (Bool × List Char)
deriving DecidableEq, Repr

namespace Numeral

def ofInt (n : Int) : Numeral := ⟨decide (n < 0), Number.natDigits n.natAbs, none, none⟩

def ofNat (n : Nat) : Numeral := ofInt n

/-- The integer that a numeral without point and exponent stands for. A negative zero is no
    integer. -/
def toInt? (n : Numeral) : Option Int :=
  match n.fraction, n.exponent with
  | none, none =>
    let value := Nat.ofDigitChars 10 n.whole 0
    if !n.negative then some value else if value = 0 then none else some (-(value : Int))
  | _, _ => none

def chars (n : Numeral) : List Char :=
  (if n.negative then ['-'] else []) ++ n.whole
    ++ (match n.fraction with | some ds => '.' :: ds | none => [])
    ++ (match n.exponent with
        | some (negative, ds) => 'e' :: (if negative then '-' else '+') :: ds
        | none => [])

end Numeral

/-! ### Values -/

/-- A JSON value. What cannot be read is a string that has no text, or an object with such a
    string as the name of a field. -/
inductive Json where
  | null
  | bool (b : Bool)
  | num (n : Numeral)
  | str (s : String)
  | arr (items : List Json)
  | obj (fields : List (String × Json))
  | unreadable
deriving Repr

namespace Json

def nat (n : Nat) : Json := .num (Numeral.ofNat n)

def int (n : Int) : Json := .num (Numeral.ofInt n)

/-- An optional value: `null` when it is absent. -/
def opt {α : Type} (f : α → Json) : Option α → Json
  | some a => f a
  | none => .null

def list {α : Type} (f : α → Json) (xs : List α) : Json := .arr (xs.map f)

end Json

end TimedTrials
