/-
  TimedTrials/Trial/Spec.lean
  ===========================
  **One validated row of the table**: what a trial shows, how it ends and how it is judged.
-/
import TimedTrials.Trial.Feedback
import TimedTrials.Trial.Response

namespace TimedTrials

/-- One trial of the table. The row counts from one; a missing latency means that the trial
    waits for its response. -/
structure TrialSpec where
  row : Nat
  block : Int
  stimulus : String
  response : Response
  latencyMs : Option Nat
  correctResponse : Option String
  feedback : Option Feedback
  feedbackDurationMs : Option Nat
  stimulusColor : String
  backgroundColor : String
deriving DecidableEq, Repr

namespace TrialSpec

def defaultStimulusColor : String := "white"

def defaultBackgroundColor : String := "darkgrey"

/-- A trial without a response, with default colors. -/
def timed (row : Nat) (block : Int) (stimulus : String) (latencyMs : Nat) : TrialSpec :=
  { row, block, stimulus
    response := .none
    latencyMs := some latencyMs
    correctResponse := none
    feedback := none
    feedbackDurationMs := none
    stimulusColor := defaultStimulusColor
    backgroundColor := defaultBackgroundColor }

end TrialSpec

end TimedTrials
