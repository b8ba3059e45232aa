/-
  TimedTrials/Domain/Letters.lean
  ===============================
  **The characters of domain names.**

  Before names are compared, characters are replaced by what they stand for: capitals by small
  letters, and forms of a character by the character itself. Some count for nothing, and some
  cannot be in a name. What comes of it is composed.
-/
import TimedTrials.Domain.Compose
import TimedTrials.Domain.LetterTable
import TimedTrials.Json.Reader
import TimedTrials.Text.Case
import TimedTrials.Text.PrintTable

namespace TimedTrials.Domain

/-- Zero-width characters that join letters of some scripts, or keep them apart. -/
def joiner : Char := Char.ofNat 0x200d
def nonJoiner : Char := Char.ofNat 0x200c

def codeOf (digits : List Char) : Nat :=
  digits.foldl (fun n c => n * 16 + (Json.Reader.hexValue? c).getD 0) 0

/-- What the character with a code point stands for by the rows of the table. -/
def rowLetters? (n : Nat) : Option (List Char) := do
  let (first, row) ← (letterRows.takeWhile fun r => decide (r.1 ≤ n)).getLast?
  let letters ← (row.toList.splitOn ' ')[n - first]?
  pure ((letters.splitOn '+').map fun digits => Char.ofNat (codeOf digits))

/-- What the character with a code point stands for, if that is something else. -/
def otherLetters? (n : Nat) : Option (List Char) :=
  match letterRuns.findSome? (·.shift? n) with
  | some m => some [Char.ofNat m]
  | none => rowLetters? n

def isRefused (c : Char) : Bool :=
  Text.inRanges refusedRanges c.toNat
    || (Text.inRanges Text.unprintableRanges c.toNat && c != joiner && c != nonJoiner)

/-- What a character of a name stands for, if it can be in a name. -/
def letters? (c : Char) : Option (List Char) :=
  if c.toNat < 0x80 then some [Text.lowerAsciiChar c]
  else if Text.inRanges ignoredRanges c.toNat then some []
  else match otherLetters? c.toNat with
    | some cs => some cs
    | none => if isRefused c then none else some [c]

/-- A name as it is compared. -/
def plain? (name : List Char) : Option (List Char) :=
  (name.mapM letters?).map fun parts => composed parts.flatten

end TimedTrials.Domain
