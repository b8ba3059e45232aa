/-
  TimedTrials/Table/Validation.lean
  =================================
  **Checking authored rows and turning them into a table of trials.**

  Every cell of a row is checked on its own and all problems are collected; a table comes out
  only when there are none. Blank rows carry no trial but count for the row numbers. The
  repeats cell is read only in the first row of a block, where a row counts as the first even
  if other cells of it are wrong.

  `Row.check` checks one row, `validate` all of them; whether an image is present is a
  predicate on paths.
-/
import TimedTrials.Log
import TimedTrials.Storage.Path
import TimedTrials.Table.Problem
import TimedTrials.Trial.Table

namespace TimedTrials

/-! ### Options -/

/-- Where images are looked for, whether they are, and which paths are regular files. -/
structure ValidationOptions where
  imageDir : String
  checkImages : Bool
  isFile : String → Bool

def defaultImageDir : String := "images"

/-- Images are looked for in the default directory, among the files that there are. -/
def ValidationOptions.standard (isFile : String → Bool) : ValidationOptions :=
  ⟨defaultImageDir, true, isFile⟩

/-- The run's repeat count as the author typed it: a positive 32-bit count. -/
def readRepetitions (raw : String) : Except Problem Nat :=
  match Number.readNat32? (Text.trim raw) with
  | some n => if 1 ≤ n then .ok n else .error (.invalidRepetitions raw)
  | none => .error (.invalidRepetitions raw)

namespace AuthoredRow

/-! ### Cells -/

def nonEmpty? (cell : String) : Option String :=
  let cell := Text.trim cell
  if cell.isEmpty then none else some cell

def readBlock (row : Nat) (raw : AuthoredRow) : Except Problem Int :=
  match nonEmpty? raw.block with
  | none => .error (.emptyBlock row)
  | some cell =>
    match Number.readInt64? cell with
    | some n => .ok n
    | none => .error (.invalidBlock row cell)

def readRepeats (row : Nat) (raw : AuthoredRow) : Except Problem Nat :=
  match nonEmpty? raw.blockRepeats with
  | none => .ok 1
  | some cell =>
    match Number.readNat32? cell with
    | some n => if 1 ≤ n then .ok n else .error (.invalidBlockRepeats row cell)
    | none => .error (.invalidBlockRepeats row cell)

def readLatency (row : Nat) (raw : AuthoredRow) (response : Response) :
    Except Problem (Option Nat) :=
  if isNA raw.latency then
    if response.isNone then .error (.noWayToEnd row) else .ok none
  else
    match Number.readNat64? (Text.trim raw.latency) with
    | some ms => .ok (some ms)
    | none => .error (.invalidLatency row raw.latency)

/-- The correct response. On a trial that takes keys it has to be one of them, as authored. -/
def readCorrect (row : Nat) (raw : AuthoredRow) (response : Response) :
    Except Problem (Option String) :=
  match nonEmpty? raw.correctResponse, response with
  | some correct, .keys tokens =>
    if tokens.contains correct then .ok (some correct)
    else .error (.correctResponseNotOffered row correct tokens)
  | correct, _ => .ok correct

def readFeedbackDuration (row : Nat) (raw : AuthoredRow) : Except Problem (Option Nat) :=
  match nonEmpty? raw.feedbackDuration with
  | none => .ok none
  | some cell =>
    match Number.readNat64? cell with
    | some ms => .ok (some ms)
    | none => .error (.invalidFeedbackDuration row cell)

def missingImages (options : ValidationOptions) (stimulus : Stimulus) : List String :=
  let missing (file : String) := !options.isFile (Path.join options.imageDir file)
  ((stimulus.images.map (·.file)).filter missing).eraseDups

def stimulusProblems (options : ValidationOptions) (row : Nat) (raw : AuthoredRow) :
    List Problem :=
  match Stimulus.read raw.stimulus with
  | .error cause => [.invalidImageOption row cause]
  | .ok stimulus =>
    if options.checkImages then
      (missingImages options stimulus).map fun file => .missingImage row file options.imageDir
    else []

/-! ### Rows -/

def problemsOf {α : Type} : Except Problem α → List Problem
  | .ok _ => []
  | .error p => [p]

/-- The repeat count of a row: read from the first row of a block only. -/
def readRepeatsIf (first : Bool) (row : Nat) (raw : AuthoredRow) : Except Problem Nat :=
  if first then readRepeats row raw else .ok 1

/-- The trial of a row whose checked cells have these values; the others are taken as they are. -/
def trial (row : Nat) (raw : AuthoredRow) (block : Int) (latencyMs : Option Nat)
    (correctResponse : Option String) (feedbackDurationMs : Option Nat) : TrialSpec :=
  { row, block, latencyMs, correctResponse, feedbackDurationMs
    stimulus := Text.trim raw.stimulus
    response := (Response.read raw.response).value
    feedback := Feedback.read raw.feedbackText
    stimulusColor := (nonEmpty? raw.stimulusColor).getD TrialSpec.defaultStimulusColor
    backgroundColor := (nonEmpty? raw.backgroundColor).getD TrialSpec.defaultBackgroundColor }

/-- The trial of a row and its block's repeat count, or everything that is wrong with it. -/
def check (options : ValidationOptions) (first : Bool) (row : Nat) (raw : AuthoredRow) :
    Except (List Problem) (TrialSpec × Nat) :=
  let response := (Response.read raw.response).value
  let block := readBlock row raw
  let repeats := readRepeatsIf first row raw
  let latency := readLatency row raw response
  let correct := readCorrect row raw response
  let duration := readFeedbackDuration row raw
  let problems := problemsOf block ++ problemsOf repeats ++ problemsOf latency
    ++ problemsOf correct ++ problemsOf duration ++ stimulusProblems options row raw
  match problems, block, repeats, latency, correct, duration with
  | [], .ok block, .ok repeats, .ok latencyMs, .ok correctResponse, .ok feedbackDurationMs =>
    .ok (raw.trial row block latencyMs correctResponse feedbackDurationMs, repeats)
  | problems, _, _, _, _, _ => .error problems

def block? (raw : AuthoredRow) : Option Int := (readBlock 0 raw).toOption

end AuthoredRow

/-! ### Tables -/

namespace Validation

/-- What is known after some rows: the block numbers met, the problems found, and the blocks
    built from rows without problems. -/
structure State where
  seen : List Int
  problems : List Problem
  builder : TableBuilder

def State.start : State := ⟨[], [], TableBuilder.empty⟩

/-- Whether a row is the first one of its block; a row without a block number is not. -/
def State.isFirst (s : State) (raw : AuthoredRow) : Bool :=
  match raw.block? with
  | some n => !s.seen.contains n
  | none => false

def State.see (s : State) (raw : AuthoredRow) : List Int :=
  match raw.block? with
  | some n => n :: s.seen
  | none => s.seen

/-- Takes a row that is not blank. -/
def State.take (options : ValidationOptions) (s : State) (row : Nat) (raw : AuthoredRow) :
    State :=
  match raw.check options (s.isFirst raw) row with
  | .ok (spec, repeats) => ⟨s.see raw, s.problems, s.builder.push spec repeats⟩
  | .error problems => ⟨s.see raw, s.problems ++ problems, s.builder⟩

/-- The rows that carry a trial, with their numbers. -/
def authored (rows : List AuthoredRow) : List (Nat × AuthoredRow) :=
  (rows.mapIdx fun i raw => (i + 1, raw)).filter (!·.2.isBlank)

end Validation

/-- Checks all rows. The problems stand in row order; a table without any trial is a problem of
    its own. -/
def validate (options : ValidationOptions) (rows : List AuthoredRow) :
    Except (List Problem) TrialTable :=
  let authored := Validation.authored rows
  let state := authored.foldl (fun s p => s.take options p.1 p.2) Validation.State.start
  if authored.isEmpty then .error [.noTrials]
  else if state.problems.isEmpty then .ok state.builder.build.1
  else .error state.problems

/-! ### Reports -/

namespace Validation

/-- The options of a row that are passed over. -/
def rowLog (row : Nat) (raw : AuthoredRow) : Log :=
  let report (message token : String) : LogEntry :=
    ⟨.warn, message, [("row", .ofNat row), ("option", .text token)]⟩
  let stimulus := match Stimulus.read raw.stimulus with
    | .ok s => s.ignored
    | .error _ => []
  (Response.read raw.response).ignored.map (report "ignoring unknown text-entry option")
    ++ stimulus.map (report "ignoring unknown image directive option")

def log (options : ValidationOptions) (rows : List AuthoredRow) : Log :=
  ((authored rows).flatMap fun p => rowLog p.1 p.2) ++
    match validate options rows with
    | .ok table => [⟨.info, "validated trial table",
        [("blocks", .ofNat table.blocks.length), ("trials", .ofNat table.trialCount)]⟩]
    | .error _ => []

end Validation

end TimedTrials
