/-
  TimedTrials/Text/Case.lean
  ==========================
  **Lowercasing**, once by the rules of Unicode and once for ASCII alone.

  Key names and option names compare after full lowercasing: every capital becomes its small
  letter, `İ` becomes an `i` with a dot above, and a capital sigma at the end of a word
  becomes the final sigma. Header names and colours compare after ASCII lowercasing.
-/
import TimedTrials.Text.CaseTable

namespace TimedTrials.Text

/-! ### Single characters -/

def lowerAsciiChar (c : Char) : Char :=
  if 'A' ≤ c ∧ c ≤ 'Z' then Char.ofNat (c.toNat + 32) else c

/-- The lowercase form of one character outside of any word. -/
def lowerChar (c : Char) : List Char :=
  if c.toNat < 0x80 then [lowerAsciiChar c]
  else if c = 'İ' then ['i', Char.ofNat 0x307]
  else match caseRuns.findSome? (·.shift? c.toNat) with
    | some n => [Char.ofNat n]
    | none => [c]

def isCased (c : Char) : Bool := inRanges casedRanges c.toNat

/-- Marks that may stand between the letters of a word. -/
def isCaseIgnorable (c : Char) : Bool := inRanges caseIgnorableRanges c.toNat

/-! ### Whole texts -/

/-- A word goes on in this direction: after ignorable marks comes a cased letter. -/
def wordGoesOn (cs : List Char) : Bool :=
  match cs.dropWhile isCaseIgnorable with
  | c :: _ => isCased c
  | [] => false

/-- Lowercases a text whose preceding characters, nearest first, are `before`. A sigma is
    final when its word goes on before it and not behind it. -/
def lowerAfter : List Char → List Char → List Char
  | _, [] => []
  | before, c :: cs =>
    (if c = 'Σ' then [if wordGoesOn before && !wordGoesOn cs then 'ς' else 'σ']
      else lowerChar c) ++ lowerAfter (c :: before) cs

def lowerChars (cs : List Char) : List Char := lowerAfter [] cs

def lower (s : String) : String := String.ofList (lowerChars s.toList)

/-- Lowercases the ASCII capitals of a string and keeps everything else. -/
def lowerAscii (s : String) : String := String.ofList (s.toList.map lowerAsciiChar)

end TimedTrials.Text
