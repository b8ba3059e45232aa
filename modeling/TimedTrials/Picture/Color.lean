/-
  TimedTrials/Picture/Color.lean
  ==============================
  **Colors as authors write them**: names, `#rgb`, `#rrggbb` and `rgb(r, g, b)`, in any ASCII
  case and with blanks around them.
-/
import TimedTrials.Number.Integer
import TimedTrials.Text.Blank
import TimedTrials.Text.Case
import TimedTrials.Text.Search

namespace TimedTrials

/-- A color without transparency. -/
structure Color where
  red : UInt8
  green : UInt8
  blue : UInt8
deriving DecidableEq, Repr

namespace Color

def named : List (String × Color) := [
  ("black", ⟨0, 0, 0⟩), ("white", ⟨255, 255, 255⟩), ("red", ⟨255, 0, 0⟩),
  ("green", ⟨0, 128, 0⟩), ("lime", ⟨0, 255, 0⟩), ("blue", ⟨0, 0, 255⟩),
  ("yellow", ⟨255, 255, 0⟩), ("orange", ⟨255, 165, 0⟩), ("purple", ⟨128, 0, 128⟩),
  ("magenta", ⟨255, 0, 255⟩), ("fuchsia", ⟨255, 0, 255⟩), ("cyan", ⟨0, 255, 255⟩),
  ("aqua", ⟨0, 255, 255⟩), ("pink", ⟨255, 192, 203⟩), ("brown", ⟨165, 42, 42⟩),
  ("navy", ⟨0, 0, 128⟩), ("teal", ⟨0, 128, 128⟩), ("olive", ⟨128, 128, 0⟩),
  ("maroon", ⟨128, 0, 0⟩), ("silver", ⟨192, 192, 192⟩), ("gray", ⟨128, 128, 128⟩),
  ("grey", ⟨128, 128, 128⟩), ("darkgray", ⟨169, 169, 169⟩), ("darkgrey", ⟨169, 169, 169⟩),
  ("lightgray", ⟨211, 211, 211⟩), ("lightgrey", ⟨211, 211, 211⟩), ("dimgray", ⟨105, 105, 105⟩),
  ("dimgrey", ⟨105, 105, 105⟩), ("darkred", ⟨139, 0, 0⟩), ("darkgreen", ⟨0, 100, 0⟩),
  ("darkblue", ⟨0, 0, 139⟩), ("gold", ⟨255, 215, 0⟩), ("violet", ⟨238, 130, 238⟩)]

def hexDigit? (c : Char) : Option Nat :=
  if '0' ≤ c ∧ c ≤ '9' then some (c.toNat - 48)
  else if 'a' ≤ c ∧ c ≤ 'f' then some (c.toNat - 87)
  else none

/-- One channel written with two characters: two digits, or a plus sign and a digit. -/
def hexPair? (a b : Char) : Option UInt8 :=
  if a = '+' then (hexDigit? b).map Nat.toUInt8
  else do
    let high ← hexDigit? a
    let low ← hexDigit? b
    pure (high * 16 + low).toUInt8

/-- One channel written with a single digit, which counts twice. -/
def hexSingle? (c : Char) : Option UInt8 := (hexDigit? c).map fun d => (d * 17).toUInt8

def ofHex? : List Char → Option Color
  | [r, g, b] => do pure ⟨← hexSingle? r, ← hexSingle? g, ← hexSingle? b⟩
  | [a, b, c, d, e, f] => do pure ⟨← hexPair? a b, ← hexPair? c d, ← hexPair? e f⟩
  | _ => none

def channel? (cs : List Char) : Option UInt8 :=
  (Number.readNat? 255 (Text.trimChars cs)).map Nat.toUInt8

def ofNumbers? (cs : List Char) : Option Color := do
  match ← (cs.splitOn ',').mapM channel? with
  | [r, g, b] => pure ⟨r, g, b⟩
  | _ => none

/-- The text between `rgb(` and a closing parenthesis at the end. -/
def functionArguments? (cs : List Char) : Option (List Char) := do
  let rest ← Text.dropHead? "rgb(".toList cs
  if rest.getLast? = some ')' then some rest.dropLast else none

def read? (raw : String) : Option Color :=
  let text := (Text.trimChars raw.toList).map Text.lowerAsciiChar
  match text with
  | '#' :: digits => ofHex? digits
  | _ =>
    match functionArguments? text with
    | some arguments => ofNumbers? arguments
    | none => named.lookup (String.ofList text)

end Color

end TimedTrials
