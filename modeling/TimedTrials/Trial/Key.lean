/-
  TimedTrials/Trial/Key.lean
  ==========================
  **Key names and their normal forms.**

  Authors and presenters name keys differently: `Space`, `spacebar` and a bare blank are one
  key, and so are the two shift keys. Two names mean the same key when their normal forms are
  equal; the normal form is the trimmed, lowercased name with the aliases folded.
-/
import TimedTrials.Text.Blank
import TimedTrials.Text.Case

namespace TimedTrials

/-- `NA` in any case, with blanks around it, marks an absent value. -/
def isNA (raw : String) : Bool := Text.lowerAscii (Text.trim raw) == "na"

namespace Key

/-- Folds the names that authors use for one key. -/
def foldAlias (name : String) : String :=
  if name = "space" ∨ name = "spacebar" then " "
  else if name = "ctrl" ∨ name = "control" then "control"
  else if name = "lshift" ∨ name = "rshift" ∨ name = "shift" then "shift"
  else name

/-- The normal form of a key name. A single blank is the space bar itself and is not trimmed
    away. -/
def normal (name : String) : String :=
  if name = " " then " " else foldAlias (Text.lower (Text.trim name))

def same (a b : String) : Bool := normal a == normal b

end Key

end TimedTrials
