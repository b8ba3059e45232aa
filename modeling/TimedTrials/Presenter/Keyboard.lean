/-
  TimedTrials/Presenter/Keyboard.lean
  ===================================
  **Keys as a keyboard delivers them**, and the names that trials know them by.
-/
import TimedTrials.Text.Case

namespace TimedTrials

/-- What a key stands for under the current layout: the text it types, a key that has a name
    such as `ArrowLeft`, an accent that waits for the next key, or nothing known. -/
inductive KeyMeaning where
  | character (text : String)
  | named (name : String)
  | dead
  | unidentified
deriving DecidableEq, Repr

/-- The name of a key for a trial: the text itself, a blank for the space bar, or the lowercased
    name of any other key. -/
def KeyMeaning.keyName? : KeyMeaning → Option String
  | .character text => some text
  | .named name => some (if name = "Space" then " " else Text.lower name)
  | .dead | .unidentified => none

end TimedTrials
