/-
  TimedTrials/Domain/Name.lean
  ============================
  **The names of hosts in ASCII.**

  A name consists of labels between dots. A label outside of ASCII is written with a mark in front
  of its letters, digits and hyphens, and a label with that mark is read that way. All labels have
  to keep the rules on marks, joiners and directions, however they were written.
-/
import TimedTrials.Domain.Direction
import TimedTrials.Domain.Joining
import TimedTrials.Domain.Letters
import TimedTrials.Domain.Punycode

namespace TimedTrials.Domain

/-- The mark of a label that is written in ASCII, but stands for another text. -/
def writtenMark : List Char := "xn--".toList

/-- The greatest length of a label that is read, without its mark. -/
def maxRead : Nat := 2000

/-- The greatest length of a label that is written. -/
def maxWritten : Nat := 1000

def isAscii (cs : List Char) : Bool := cs.all (·.toNat < 0x80)

def isMark (c : Char) : Bool :=
  Text.inRanges nonspacingRanges c.toNat || Text.inRanges spacingMarkRanges c.toNat

/-- The text that a label stands for: what is behind the mark has to be the written form of a
    text outside of ASCII that is as it would be compared. -/
def read? (label : List Char) : Option (List Char) :=
  match Text.dropHead? writtenMark label with
  | none => some label
  | some written => do
    if maxRead < written.length then none
    let text ← Punycode.decode? written
    if isAscii text || (Text.dropHead? writtenMark text).isSome || plain? text != some text then
      none
    else some text

/-- Whether a label keeps the rules on marks and joiners. -/
def keepsRules (label : List Char) : Bool :=
  isAscii label || (!(label.head?.map isMark).getD false && joinersFit [] label
    && decide (label.length ≤ maxWritten))

def isDenied (c : Char) : Bool :=
  c.toNat ≤ 0x20 || c.toNat == 0x7f || "%#/:<>?@[\\]^|".toList.contains c

def written (label : List Char) : List Char :=
  if isAscii label then label else writtenMark ++ Punycode.encode label

def ascii? (name : String) : Option String := do
  let plain ← plain? name.toList
  let labels ← (plain.splitOn '.').mapM read?
  if labels.all keepsRules && directionsFit labels && !labels.any (·.any isDenied) then
    some (".".intercalate (labels.map fun label => String.ofList (written label)))
  else none

end TimedTrials.Domain
