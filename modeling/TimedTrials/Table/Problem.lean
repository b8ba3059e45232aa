/-
  TimedTrials/Table/Problem.lean
  ==============================
  **What can be wrong with a table**, each problem with the row and the field it belongs to.
-/
import TimedTrials.Stimulus.Directive
import TimedTrials.Table.Row

namespace TimedTrials

/-- The fields an author fills in: the columns, and the repeat count of the whole run. -/
inductive Field where
  | column (c : Column)
  | repetitions
deriving DecidableEq, Repr

def Field.name : Field → String
  | .column c => c.header
  | .repetitions => "Repeat Sequence"

/-- A problem with one authored row, or with the table as a whole. -/
inductive Problem where
  | emptyBlock (row : Nat)
  | invalidBlock (row : Nat) (value : String)
  | invalidBlockRepeats (row : Nat) (value : String)
  | invalidLatency (row : Nat) (value : String)
  | noWayToEnd (row : Nat)
  | correctResponseNotOffered (row : Nat) (correct : String) (options : List String)
  | invalidFeedbackDuration (row : Nat) (value : String)
  | invalidImageOption (row : Nat) (cause : DirectiveError)
  | missingImage (row : Nat) (file dir : String)
  | invalidRepetitions (value : String)
  | noTrials
deriving DecidableEq, Repr

namespace Problem

/-- The row a problem belongs to, counted from one. -/
def row? : Problem → Option Nat
  | emptyBlock row | invalidBlock row _ | invalidBlockRepeats row _ | invalidLatency row _
  | noWayToEnd row | correctResponseNotOffered row _ _ | invalidFeedbackDuration row _
  | invalidImageOption row _ | missingImage row _ _ => some row
  | invalidRepetitions _ | noTrials => none

/-- The field a problem belongs to. -/
def field? : Problem → Option Field
  | emptyBlock _ | invalidBlock _ _ => some (.column .block)
  | invalidBlockRepeats _ _ => some (.column .blockRepeats)
  | invalidLatency _ _ | noWayToEnd _ => some (.column .latency)
  | correctResponseNotOffered _ _ _ => some (.column .correctResponse)
  | invalidFeedbackDuration _ _ => some (.column .feedbackDuration)
  | invalidImageOption _ _ | missingImage _ _ _ => some (.column .stimulus)
  | invalidRepetitions _ => some .repetitions
  | noTrials => none

def message : Problem → String
  | emptyBlock row => s!"row {row}: Block cannot be empty"
  | invalidBlock row value => s!"row {row}: Block must be an integer, got " ++ Text.quote value
  | invalidBlockRepeats row value =>
    s!"row {row}: Block Repeats must be a positive integer, got " ++ Text.quote value
  | invalidLatency row value =>
    s!"row {row}: Latency must be a number of milliseconds or NA, got " ++ Text.quote value
  | noWayToEnd row => s!"row {row}: Response and Latency cannot both be NA"
  | correctResponseNotOffered row correct options =>
    s!"row {row}: Correct Response " ++ Text.quote correct
      ++ " must be one of the Response options " ++ Text.quoteList options
  | invalidFeedbackDuration row value =>
    s!"row {row}: Feedback Duration must be a number of milliseconds, got " ++ Text.quote value
  | invalidImageOption row cause => s!"row {row}: Stimulus " ++ cause.message
  | missingImage row file dir =>
    s!"row {row}: Stimulus image " ++ Text.quote file ++ " not found in " ++ dir
  | invalidRepetitions value =>
    "Repeat Sequence must be a positive integer, got " ++ Text.quote value
  | noTrials => "no trials defined"

def code : Problem → String
  | emptyBlock _ => "EmptyBlock"
  | invalidBlock _ _ => "InvalidBlock"
  | invalidBlockRepeats _ _ => "InvalidBlockRepeats"
  | invalidLatency _ _ => "InvalidLatency"
  | noWayToEnd _ => "NoWayToEnd"
  | correctResponseNotOffered _ _ _ => "CorrectResponseNotOffered"
  | invalidFeedbackDuration _ _ => "InvalidFeedbackDuration"
  | invalidImageOption _ _ => "InvalidImageOption"
  | missingImage _ _ _ => "MissingImage"
  | invalidRepetitions _ => "InvalidRepetitions"
  | noTrials => "NoTrials"

def messages (problems : List Problem) : String :=
  String.intercalate "\n" (problems.map message)

end Problem

end TimedTrials
