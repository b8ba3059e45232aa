/-
  TimedTrials/Domain/Direction.lean
  =================================
  **Names that are written from right to left.**

  When a name has characters of a script that runs from right to left, each of its labels has to
  run in one direction: it begins with a letter, its other characters go along with the
  direction of that letter, and it ends in a letter or digit, marks apart.
-/
import TimedTrials.Domain.MarkTable
import TimedTrials.Text.Ranges

namespace TimedTrials.Domain

inductive Direction where
  | left
  | right
  | europeanDigit
  | arabicDigit
  | mark
  | neutral
deriving DecidableEq, Repr

/-- Nonspacing marks that take part in the line like letters. -/
def letterLikeMarks : List Nat := [0xcbf, 0xcc6, 0x11a07, 0x11a08, 0x11c3f]

/-- Ranges of the digits that run from left to right in a text from right to left. -/
def europeanDigitRanges : List (Nat × Nat) := [(0x30, 0x39), (0x6f0, 0x6f9), (0x102e1, 0x102fb)]

def arabicDigitRanges : List (Nat × Nat) := [
  (0x660, 0x669), (0x66b, 0x66c), (0x10d30, 0x10d39), (0x10e60, 0x10e7e)]

/-- Ranges of the characters without a direction, digits and marks apart. -/
def neutralRanges : List (Nat × Nat) := [
  (0x0, 0x40), (0x5b, 0x60), (0x7b, 0x7f),
  (0xa1, 0xd7), (0xf7, 0xf7), (0x2b9, 0x2ba), (0x2c2, 0x2cf), (0x2d2, 0x2ed), (0x2ef, 0x2ff),
  (0x375, 0x375), (0x3f6, 0x3f6), (0x58a, 0x58f), (0x606, 0x607), (0x609, 0x60a), (0x60c, 0x60c),
  (0x60e, 0x60f), (0x66a, 0x66a), (0x6de, 0x6de), (0x6e9, 0x6e9), (0x7f6, 0x7f9), (0x9f2, 0x9f3),
  (0x9fb, 0x9fb), (0xaf1, 0xaf1), (0xbf3, 0xbfa), (0xc78, 0xc7e), (0xe3f, 0xe3f), (0xf3a, 0xf3d),
  (0x1390, 0x1399), (0x1400, 0x1400), (0x169b, 0x169c), (0x17db, 0x17db), (0x17f0, 0x180a),
  (0x1940, 0x1945), (0x19de, 0x19ff), (0x200c, 0x214d), (0x218a, 0x2335), (0x237b, 0x2394),
  (0x2396, 0x26ab), (0x26ad, 0x27ff), (0x2900, 0x2bff), (0x2ce5, 0x2cea), (0x2cf9, 0x2cff),
  (0x2e00, 0x3004), (0x3008, 0x3020), (0x3030, 0x3030), (0x3037, 0x3037), (0x303d, 0x303f),
  (0x30a0, 0x30a0), (0x30fb, 0x30fb), (0x31c0, 0x31e5), (0x4dc0, 0x4dff), (0xa490, 0xa4c6),
  (0xa60d, 0xa60f), (0xa673, 0xa67f), (0xa700, 0xa721), (0xa788, 0xa788), (0xa828, 0xa82b),
  (0xa838, 0xa839), (0xa874, 0xa877), (0xab6a, 0xab6b), (0xfbc3, 0xfe46), (0x10101, 0x10101),
  (0x10140, 0x1018c), (0x10190, 0x101a0), (0x1091f, 0x1091f), (0x10b39, 0x10b3f),
  (0x10d6e, 0x10d6e), (0x10ed0, 0x10ed8), (0x11052, 0x11065), (0x11660, 0x1166c),
  (0x11fd5, 0x11ff1), (0x16fe2, 0x16fe2), (0x1cc00, 0x1cef0), (0x1d1e9, 0x1d245),
  (0x1d300, 0x1d356), (0x1e2ff, 0x1e2ff), (0x1eef0, 0x1f12f), (0x1f16d, 0x1f16f),
  (0x1f1ad, 0x1f1ad), (0x1f260, 0x1fbfa)]

/-- Ranges of the scripts that run from right to left, all characters above apart. -/
def rightRanges : List (Nat × Nat) := [
  (0x5be, 0x8c9), (0xfbb2, 0xfe73), (0x10800, 0x10ff6), (0x1e800, 0x1ed3d)]

/-- The direction of a character that names can have. -/
def Direction.of (c : Char) : Direction :=
  let n := c.toNat
  if Text.inRanges nonspacingRanges n && !letterLikeMarks.contains n then .mark
  else if Text.inRanges europeanDigitRanges n then .europeanDigit
  else if Text.inRanges arabicDigitRanges n then .arabicDigit
  else if Text.inRanges neutralRanges n then .neutral
  else if Text.inRanges rightRanges n then .right
  else .left

def Direction.isRight (d : Direction) : Bool := d == .right || d == .arabicDigit

/-- Whether the directions of a label, without the marks at its end, go along with a first letter
    from left to right. -/
def runsLeft (ds : List Direction) : Bool :=
  ds.all (!·.isRight) && (ds.getLast? == some .left || ds.getLast? == some .europeanDigit)

/-- Whether the directions of a label, without the marks at its end, go along with a first letter
    from right to left. Only one kind of digits may be among them. -/
def runsRight (ds : List Direction) : Bool :=
  ds.all (· != .left) && !(ds.contains .europeanDigit && ds.contains .arabicDigit)
    && (match ds.getLast? with
      | some d => d != .neutral && d != .mark
      | none => false)

def runsInOneDirection (label : List Char) : Bool :=
  let ds := label.map Direction.of
  let inner := (ds.reverse.dropWhile (· == .mark)).reverse
  match ds with
  | [] => true
  | .left :: _ => runsLeft inner
  | .right :: _ => runsRight inner
  | _ => false

/-- Whether all labels run in one direction each, as far as that is asked of them. -/
def directionsFit (labels : List (List Char)) : Bool :=
  !labels.any (·.any fun c => (Direction.of c).isRight) || labels.all runsInOneDirection

end TimedTrials.Domain
