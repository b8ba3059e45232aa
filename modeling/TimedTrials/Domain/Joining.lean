/-
  TimedTrials/Domain/Joining.lean
  ===============================
  **Where joiners may stand.**

  A joiner or non-joiner shows only behind a mark that silences a vowel. A non-joiner also shows
  between two letters of a script whose letters join; marks may stand between.
-/
import TimedTrials.Domain.Compose
import TimedTrials.Domain.Letters

namespace TimedTrials.Domain

def joinsNextRanges : List (Nat × Nat) := [
  (0xa872, 0xa872), (0x10acd, 0x10acd), (0x10ad7, 0x10ad7), (0x10d00, 0x10d00),
  (0x10fcb, 0x10fcb)]

def joinsPreviousRanges : List (Nat × Nat) := [
  (0x622, 0x625), (0x627, 0x627), (0x629, 0x629), (0x62f, 0x632), (0x648, 0x648), (0x671, 0x673),
  (0x688, 0x699), (0x6c0, 0x6c0), (0x6c3, 0x6cb), (0x6cd, 0x6cd), (0x6cf, 0x6cf), (0x6d2, 0x6d3),
  (0x6d5, 0x6d5), (0x6ee, 0x6ef), (0x710, 0x710), (0x715, 0x719), (0x71e, 0x71e), (0x728, 0x728),
  (0x72a, 0x72a), (0x72c, 0x72c), (0x72f, 0x74d), (0x759, 0x75b), (0x76b, 0x76c), (0x771, 0x771),
  (0x773, 0x774), (0x778, 0x779), (0x840, 0x840), (0x846, 0x847), (0x849, 0x849), (0x854, 0x854),
  (0x856, 0x858), (0x867, 0x867), (0x869, 0x882), (0x88e, 0x88e), (0x8aa, 0x8ac), (0x8ae, 0x8ae),
  (0x8b1, 0x8b2), (0x8b9, 0x8b9), (0x10ac5, 0x10ac5), (0x10ac7, 0x10ac7), (0x10ac9, 0x10aca),
  (0x10ace, 0x10ad2), (0x10add, 0x10add), (0x10ae1, 0x10ae1), (0x10ae4, 0x10ae4),
  (0x10aef, 0x10aef), (0x10b81, 0x10b81), (0x10b83, 0x10b85), (0x10b89, 0x10b89),
  (0x10b8c, 0x10b8c), (0x10b8e, 0x10b8f), (0x10b91, 0x10b91), (0x10ba9, 0x10bac),
  (0x10d22, 0x10d22), (0x10ec2, 0x10ec2), (0x10f33, 0x10f33), (0x10f54, 0x10f54),
  (0x10f74, 0x10f75), (0x10fb4, 0x10fb6), (0x10fb9, 0x10fba), (0x10fbd, 0x10fbd),
  (0x10fc2, 0x10fc3), (0x10fc9, 0x10fc9)]

/-- Ranges of the letters that join to both sides; others among the ones above apart. -/
def joinsBothRanges : List (Nat × Nat) := [
  (0x620, 0x620), (0x626, 0x63f), (0x641, 0x64a), (0x66e, 0x66f), (0x679, 0x6d1), (0x6fa, 0x6fc),
  (0x6ff, 0x6ff), (0x712, 0x77f), (0x7ca, 0x7ea), (0x841, 0x855), (0x860, 0x860), (0x862, 0x865),
  (0x868, 0x868), (0x886, 0x886), (0x889, 0x8a9), (0x8af, 0x8c8), (0x1807, 0x1807),
  (0x1820, 0x1878), (0x1887, 0x18aa), (0xa840, 0xa871), (0x10ac0, 0x10ac4), (0x10ad3, 0x10ae0),
  (0x10aeb, 0x10aee), (0x10b80, 0x10b90), (0x10bad, 0x10bae), (0x10d01, 0x10d23),
  (0x10ec3, 0x10ec4), (0x10ec6, 0x10ec7), (0x10f30, 0x10f44), (0x10f51, 0x10f53),
  (0x10f70, 0x10f81), (0x10fb0, 0x10fb0), (0x10fb2, 0x10fb3), (0x10fb8, 0x10fbf),
  (0x10fc1, 0x10fc4), (0x10fca, 0x10fca), (0x1e922, 0x1e943)]

/-- A letter-like sign that joins like a mark. -/
def joiningSign : Nat := 0x1e94b

def isTransparent (c : Char) : Bool :=
  Text.inRanges nonspacingRanges c.toNat || c.toNat == joiningSign

def joinsTo (c : Char) : Bool × Bool :=
  if Text.inRanges joinsNextRanges c.toNat then (false, true)
  else if Text.inRanges joinsPreviousRanges c.toNat then (true, false)
  else if Text.inRanges joinsBothRanges c.toNat then (true, true)
  else (false, false)

/-- The class of the marks that silence a vowel. -/
def silencingClass : Nat := 9

/-- Whether the first character that is not transparent joins to a side. -/
def firstJoins (joins : Char → Bool) (cs : List Char) : Bool :=
  match cs.dropWhile isTransparent with
  | c :: _ => joins c
  | [] => false

/-- Whether the joiners in a label may stand where they do; what is before stands nearest
    first. -/
def joinersFit : List Char → List Char → Bool
  | _, [] => true
  | before, c :: rest =>
    (if c = joiner ∨ c = nonJoiner then
      (match before with
        | last :: _ => classOf last == silencingClass
        | [] => false)
        || (c == nonJoiner && firstJoins (joinsTo · |>.2) before
          && firstJoins (joinsTo · |>.1) rest)
    else true) && joinersFit (c :: before) rest

end TimedTrials.Domain
