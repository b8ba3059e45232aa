/-
  TimedTrials/Number/Integer.lean
  ===============================
  **Reading whole numbers from text.**

  A count in a cell, an option or an argument is a run of ASCII digits, at least one, with an
  optional plus sign; a block number may also carry a minus sign. No blanks and no separators
  are allowed, leading zeros are, and a value outside of its range is refused like any other
  malformed text. Counts are natural numbers bounded by the width of their field.
-/
namespace TimedTrials.Number

/-! ### Field widths -/

def max32 : Nat := 0xffffffff

def max64 : Nat := 0xffffffffffffffff

def minSigned64 : Int := -0x8000000000000000

def maxSigned64 : Int := 0x7fffffffffffffff

/-! ### Reading -/

/-- The value of a non-empty run of ASCII digits. -/
def ofDigits? (cs : List Char) : Option Nat :=
  if cs.isEmpty || !cs.all Char.isDigit then none else some (Nat.ofDigitChars 10 cs 0)

def readNat? (limit : Nat) (cs : List Char) : Option Nat :=
  let digits := match cs with
    | '+' :: rest => rest
    | cs => cs
  (ofDigits? digits).filter (· ≤ limit)

def readInt? (lo hi : Int) (cs : List Char) : Option Int :=
  let value := match cs with
    | '-' :: rest => (ofDigits? rest).map fun n => -(n : Int)
    | '+' :: rest => (ofDigits? rest).map Int.ofNat
    | cs => (ofDigits? cs).map Int.ofNat
  value.filter fun n => decide (lo ≤ n) && decide (n ≤ hi)

def readNat32? (s : String) : Option Nat := readNat? max32 s.toList

def readNat64? (s : String) : Option Nat := readNat? max64 s.toList

def readInt64? (s : String) : Option Int := readInt? minSigned64 maxSigned64 s.toList

/-! ### Writing -/

def natDigits (n : Nat) : List Char := Nat.toDigits 10 n

/-- The digits of a number, with zeros in front up to the given width. -/
def padded (width n : Nat) : List Char :=
  let digits := natDigits n
  List.replicate (width - digits.length) '0' ++ digits

end TimedTrials.Number
