/-
  TimedTrials/Table/Row.lean
  ==========================
  **Authored rows**: ten cells of text, kept as they were typed.
-/
import TimedTrials.Text.Blank

namespace TimedTrials

inductive Column where
  | block
  | blockRepeats
  | stimulus
  | response
  | latency
  | correctResponse
  | feedbackText
  | feedbackDuration
  | stimulusColor
  | backgroundColor
deriving DecidableEq, Repr

namespace Column

def all : List Column := [.block, .blockRepeats, .stimulus, .response, .latency,
  .correctResponse, .feedbackText, .feedbackDuration, .stimulusColor, .backgroundColor]

def header : Column → String
  | .block => "Block"
  | .blockRepeats => "Block Repeats"
  | .stimulus => "Stimulus"
  | .response => "Response"
  | .latency => "Latency"
  | .correctResponse => "Correct Response"
  | .feedbackText => "Feedback Text"
  | .feedbackDuration => "Feedback Duration"
  | .stimulusColor => "Stimulus Color"
  | .backgroundColor => "Background Color"

end Column

/-- One row of the table as the author typed it. -/
structure AuthoredRow where
  block : String
  blockRepeats : String
  stimulus : String
  response : String
  latency : String
  correctResponse : String
  feedbackText : String
  feedbackDuration : String
  stimulusColor : String
  backgroundColor : String
deriving DecidableEq, Repr

namespace AuthoredRow

/-- The row with the given cells in column order. Missing cells are empty, further ones are
    left out. -/
def ofCells (cells : List String) : AuthoredRow :=
  let cell (i : Nat) := cells.getD i ""
  ⟨cell 0, cell 1, cell 2, cell 3, cell 4, cell 5, cell 6, cell 7, cell 8, cell 9⟩

def cells (row : AuthoredRow) : List String :=
  [row.block, row.blockRepeats, row.stimulus, row.response, row.latency, row.correctResponse,
    row.feedbackText, row.feedbackDuration, row.stimulusColor, row.backgroundColor]

/-- A row whose cells hold nothing but blanks carries no trial. -/
def isBlank (row : AuthoredRow) : Bool := row.cells.all Text.isBlankText

end AuthoredRow

end TimedTrials
