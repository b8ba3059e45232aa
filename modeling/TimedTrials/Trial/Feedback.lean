/-
  TimedTrials/Trial/Feedback.lean
  ===============================
  **Feedback messages and when they are shown.**

  A cell may carry one of the marks `[all]`, `[correct]` and `[incorrect]`, anywhere in it;
  the first mark of this order that the cell holds decides, and its first occurrence is taken
  out of the message. A cell without a mark is shown after every trial.
-/
import TimedTrials.Text.Blank
import TimedTrials.Text.Search

namespace TimedTrials

/-- The outcomes that a message is shown for. -/
inductive FeedbackRule where
  | always
  | whenCorrect
  | whenIncorrect
  | unmarked
deriving DecidableEq, Repr

def FeedbackRule.mark? : FeedbackRule → Option String
  | .always => some "[all]"
  | .whenCorrect => some "[correct]"
  | .whenIncorrect => some "[incorrect]"
  | .unmarked => none

def FeedbackRule.shows (rule : FeedbackRule) (correct : Option Bool) : Bool :=
  match rule with
  | .always | .unmarked => true
  | .whenCorrect => correct == some true
  | .whenIncorrect => correct == some false

/-- A message without its mark, and its rule. -/
structure Feedback where
  rule : FeedbackRule
  message : String
deriving DecidableEq, Repr

namespace Feedback

/-- The rules that have a mark, the strongest first. -/
def markedRules : List FeedbackRule := [.always, .whenCorrect, .whenIncorrect]

/-- The feedback of a text that holds the mark of a rule. -/
def marked? (text : List Char) (rule : FeedbackRule) : Option Feedback := do
  let mark ← rule.mark?
  if Text.contains mark.toList text then
    some ⟨rule, String.ofList (Text.trimChars (Text.replaceFirst mark.toList [] text))⟩
  else none

def read (raw : String) : Option Feedback :=
  let text := Text.trimChars raw.toList
  if text.isEmpty then none
  else some ((markedRules.findSome? (marked? text)).getD ⟨.unmarked, String.ofList text⟩)

def resolve (f : Feedback) (correct : Option Bool) : Option String :=
  if f.rule.shows correct && !f.message.isEmpty then some f.message else none

end Feedback

end TimedTrials
