/-
  TimedTrials/Domain/Compose.lean
  ===============================
  **Composing letters and marks.**

  The same text can have an accented letter as one character or as a letter with a mark behind
  it. A name is compared in its composed form: all characters are taken apart, the marks behind a
  letter are put into the order of their classes, and then every mark goes into its letter that
  can. Syllables of Korean are composed of their letters by calculation.
-/
import TimedTrials.Domain.MarkTable

namespace TimedTrials.Domain

/-- The class that a mark is ordered by; zero for what is no mark, or stays in its place. -/
def classOf (c : Char) : Nat :=
  ((classRanges.find? fun r => decide (r.1 ≤ c.toNat) && decide (c.toNat ≤ r.2.1)).map
    (·.2.2)).getD 0

/-! ### Korean syllables -/

/-- The first code points of syllables, leading letters, vowels and trailing letters, where the
    first trailing letter is one before those that there are. -/
def syllableStart : Nat := 0xac00
def leadStart : Nat := 0x1100
def vowelStart : Nat := 0x1161
def trailStart : Nat := 0x11a7

def leadCount : Nat := 19
def vowelCount : Nat := 21
def trailCount : Nat := 28

def offset? (start count n : Nat) : Option Nat :=
  if start ≤ n ∧ n < start + count then some (n - start) else none

/-- The syllable that two parts form: leading letter and vowel, or those and a trailing letter. -/
def syllable? (first second : Nat) : Option Nat :=
  match offset? leadStart leadCount first, offset? vowelStart vowelCount second with
  | some l, some v => some (syllableStart + (l * vowelCount + v) * trailCount)
  | _, _ =>
    match offset? syllableStart (leadCount * vowelCount * trailCount) first,
      offset? trailStart trailCount second with
    | some s, some (t + 1) => if s % trailCount = 0 then some (first + (t + 1)) else none
    | _, _ => none

def syllableParts? (n : Nat) : Option (Nat × Nat) :=
  (offset? syllableStart (leadCount * vowelCount * trailCount) n).map fun s =>
    if s % trailCount = 0 then
      (leadStart + s / (vowelCount * trailCount), vowelStart + s / trailCount % vowelCount)
    else (n - s % trailCount, trailStart + s % trailCount)

/-! ### Taking apart and putting together -/

def together? (a b : Char) : Option Char :=
  ((composedTriples.find? fun t => t.1 == a.toNat && t.2.1 == b.toNat).map (·.2.2)).or
    (syllable? a.toNat b.toNat) |>.map Char.ofNat

def parts? (c : Char) : Option (Char × Char) :=
  ((composedTriples.find? fun t => t.2.2 == c.toNat).map fun t => (t.1, t.2.1)).or
    (syllableParts? c.toNat) |>.map fun (a, b) => (Char.ofNat a, Char.ofNat b)

/-- How often the first part of a character can be composed itself, at most. -/
def maxParts : Nat := 4

/-- The parts of a character that are not composed, when its first part is taken apart so many
    times. -/
def apart : Nat → Char → List Char
  | 0, c => [c]
  | n + 1, c =>
    match parts? c with
    | some (a, b) => apart n a ++ [b]
    | none => [c]

/-- Puts a character in front of an ordered text. A mark goes behind all marks of lower
    classes. -/
def putInOrder (c : Char) : List Char → List Char
  | [] => [c]
  | d :: rest =>
    if 0 < classOf d ∧ classOf d < classOf c then d :: putInOrder c rest else c :: d :: rest

/-- A text with the marks behind every letter in the order of their classes. -/
def ordered (cs : List Char) : List Char := cs.foldr putInOrder []

/-- Composes a letter with the marks behind it that can go into it. The marks between that stay
    are in `kept`, the last one first; one of them is in the way of a mark unless its class is
    lower. -/
def composeFrom (letter : Char) (kept : List Char) : List Char → List Char
  | [] => letter :: kept.reverse
  | c :: rest =>
    let isFree := match kept with
      | last :: _ => decide (classOf last < classOf c)
      | [] => true
    match if isFree then together? letter c else none with
    | some both => composeFrom both kept rest
    | none =>
      if classOf c = 0 then letter :: kept.reverse ++ composeFrom c [] rest
      else composeFrom letter (c :: kept) rest

def composed (cs : List Char) : List Char :=
  match ordered (cs.flatMap (apart maxParts)) with
  | [] => []
  | c :: rest => composeFrom c [] rest

end TimedTrials.Domain
