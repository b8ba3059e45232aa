/-
  TimedTrials/Json/Record.lean
  ============================
  **Reading typed values out of JSON.**

  A record is read by the names of its fields, in declaration order. It may stand as an
  object, where unknown fields are passed over and a known field must not stand twice, or as
  a list with exactly one item per field. A number field takes whole numbers inside of its
  range only; a measured time takes any number and rounds it to a double.

  Fields are passed over without being read. Where it takes a later field to know what a
  value is for, the value is kept until then, and it has to be one that can be kept.
-/
import TimedTrials.Json.Basic

namespace TimedTrials

/-! ### Doubles -/

namespace Numeral

/-- A double with a decimal exponent that is still to be applied. -/
structure Scaled where
  significand : Nat
  exponent : Int

/-- Takes one more digit of the whole part: a digit that no longer fits a 64-bit significand
    counts for the exponent, and so do all behind it. -/
def takeWhole (state : Scaled × Bool) (c : Char) : Scaled × Bool :=
  let (s, full) := state
  let next := s.significand * 10 + (c.toNat - '0'.toNat)
  if full || next > Number.max64 then (⟨s.significand, s.exponent + 1⟩, true)
  else (⟨next, s.exponent⟩, false)

/-- Takes one more digit of the fraction: a digit that no longer fits is passed over, and so
    are all behind it. -/
def takeFraction (state : Scaled × Bool) (c : Char) : Scaled × Bool :=
  let (s, full) := state
  let next := s.significand * 10 + (c.toNat - '0'.toNat)
  if full || next > Number.max64 then (s, true) else (⟨next, s.exponent - 1⟩, false)

/-- Multiplies by a power of ten, in steps that stay inside the range of a double. An overflow
    has no value. -/
def applyExponent : Nat → Float → Int → Option Float
  | 0, _, _ => none
  | fuel + 1, x, e =>
    if e.natAbs ≤ 308 then
      let power := Float.ofScientific 1 false e.natAbs
      if 0 ≤ e then
        let y := x * power
        if y.isInf then none else some y
      else some (x / power)
    else if x == 0 then some x
    else if 0 ≤ e then none
    else applyExponent fuel (x / 1e308) (e + 308)

/-- The largest exponent that is told apart from larger ones. -/
def exponentLimit : Nat := 0x7fffffff

/-- The double that a numeral stands for: its leading digits as a 64-bit number, rounded once,
    and then scaled by its exponent, rounded again. A magnitude beyond all doubles is refused,
    one below them all is zero. -/
def toFloat? (n : Numeral) : Option Float := do
  let whole := (n.whole.foldl takeWhole (⟨0, 0⟩, false)).1
  let parts := ((n.fraction.getD []).foldl takeFraction (whole, false)).1
  let magnitude ← match n.exponent with
    | none =>
      if n.fraction.isNone && parts.exponent = 0 then
        some parts.significand.toUInt64.toFloat
      else applyExponent 64 parts.significand.toUInt64.toFloat parts.exponent
    | some (negative, ds) =>
      let e := Nat.ofDigitChars 10 ds 0
      if e > exponentLimit then
        if parts.significand ≠ 0 && !negative then none else some 0
      else
        let e : Int := parts.exponent + (if negative then -(e : Int) else e)
        -- the quotient is zero long before this many steps
        applyExponent 64 parts.significand.toUInt64.toFloat e
  pure (if n.negative then -magnitude else magnitude)

end Numeral

namespace Json

/-! ### Plain values -/

def str? : Json → Option String
  | .str s => some s
  | _ => none

def bool? : Json → Option Bool
  | .bool b => some b
  | _ => none

def intBetween? (lo hi : Int) : Json → Option Int
  | .num n => n.toInt?.filter fun i => decide (lo ≤ i) && decide (i ≤ hi)
  | _ => none

def int64? (v : Json) : Option Int := v.intBetween? Number.minSigned64 Number.maxSigned64

def nat64? (v : Json) : Option Nat := (v.intBetween? 0 Number.max64).map Int.toNat

def nat32? (v : Json) : Option Nat := (v.intBetween? 0 Number.max32).map Int.toNat

def float? : Json → Option Float
  | .num n => n.toFloat?
  | _ => none

def list? {α : Type} (f : Json → Option α) : Json → Option (List α)
  | .arr items => items.mapM f
  | _ => none

def opt? {α : Type} (f : Json → Option α) : Json → Option (Option α)
  | .null => some none
  | v => (f v).map some

/-- A name without data, written as a string or as an object that gives it `null`. -/
def name? : Json → Option String
  | .str s => some s
  | .obj [(s, .null)] => some s
  | _ => none

/-! ### Values that are kept -/

/-- How many lists and objects may stand in each other where a value is kept. -/
def maxLevel : Nat := 127

mutual

/-- Whether a value can be kept that stands in `level` lists and objects: its numbers are in
    the range of a double, its strings have texts, and it is not nested too deeply. -/
def canKeep (level : Nat) : Json → Bool
  | .null => true
  | .bool _ => true
  | .num n => n.toFloat?.isSome
  | .str _ => true
  | .arr items => decide (level < maxLevel) && canKeepItems (level + 1) items
  | .obj fields => decide (level < maxLevel) && canKeepFields (level + 1) fields
  | .unreadable => false

def canKeepItems (level : Nat) : List Json → Bool
  | [] => true
  | v :: vs => canKeep level v && canKeepItems level vs

def canKeepFields (level : Nat) : List (String × Json) → Bool
  | [] => true
  | (_, v) :: fs => canKeep level v && canKeepFields level fs

end

/-! ### Records -/

/-- The value of the only field with this name: `none` when the name stands twice. -/
def only? (name : String) (fields : List (String × Json)) : Option (Option Json) :=
  match fields.filter (·.1 == name) with
  | [] => some none
  | [(_, v)] => some (some v)
  | _ => none

/-- The fields of a record by name, as an object or as a list in declaration order. -/
def record? (names : List String) : Json → Option (List (Option Json))
  | .obj fields => names.mapM fun name => only? name fields
  | .arr items => if items.length = names.length then some (items.map some) else none
  | _ => none

def need {α : Type} (f : Json → Option α) (field : Option Json) : Option α := field.bind f

def maybe {α : Type} (f : Json → Option α) : Option Json → Option (Option α)
  | none => some none
  | some v => v.opt? f

/-- The value of a field of an object; of several, the last. -/
def field? (name : String) : Json → Option Json
  | .obj fields => (fields.reverse.find? (·.1 == name)).map (·.2)
  | _ => none

end Json

end TimedTrials
