/-
  TimedTrials/Text/Blank.lean
  ===========================
  **Blank characters and the trimming of text.**

  Authored cells, file names, option tokens and colours all allow blanks around them. A blank
  is a character of the Unicode property `White_Space`; `trim` removes blanks at both ends and
  leaves those inside alone.

  Functions on text work on `List Char`, where they are structural; the versions on `String`
  go through `String.toList` and `String.ofList`.
-/
namespace TimedTrials.Text

/-! ### Blank characters -/

/-- The code points of `White_Space`. -/
def blankCodes : List Nat := [
  0x09, 0x0a, 0x0b, 0x0c, 0x0d, 0x20, 0x85, 0xa0, 0x1680, 0x2000, 0x2001, 0x2002, 0x2003,
  0x2004, 0x2005, 0x2006, 0x2007, 0x2008, 0x2009, 0x200a, 0x2028, 0x2029, 0x202f, 0x205f,
  0x3000]

def isBlank (c : Char) : Bool := blankCodes.contains c.toNat

/-! ### Stripping the ends of a text -/

/-- Drops the longest run at either end whose characters all satisfy `p`. -/
def stripEnds (p : Char → Bool) (cs : List Char) : List Char :=
  ((cs.dropWhile p).reverse.dropWhile p).reverse

def trimChars (cs : List Char) : List Char := stripEnds isBlank cs

def trim (s : String) : String := String.ofList (trimChars s.toList)

def isBlankText (s : String) : Bool := s.toList.all isBlank

end TimedTrials.Text
