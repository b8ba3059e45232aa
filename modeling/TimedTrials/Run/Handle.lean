/-
  TimedTrials/Run/Handle.lean
  ===========================
  **What an event does to a run.**

  An event that does not fit the phase, names another presentation, comes after the key
  window has closed or is no answer to the trial is refused and leaves the run as it is.
  Every other event is accepted: the start presents the first trial, an answer or a timeout
  resolves the trial on screen, and the end of feedback brings up the next trial. The end of
  the sequence finishes the run.
-/
import TimedTrials.Log
import TimedTrials.Run.Basic
import TimedTrials.Text.Quoted

namespace TimedTrials.Run

/-! ### Judging an answer -/

/-- What ended a trial: a key by its normal name, a text, or the latency. -/
inductive Answer where
  | key (name : String)
  | text (value : String)
  | timeout
deriving DecidableEq, Repr

def Answer.given? : Answer → Option String
  | .key name => some name
  | .text value => some value
  | .timeout => none

/-- Whether an answer is right: a text when it is exactly the correct response, a key when it
    is the same key, and a timeout never. -/
def judge (spec : TrialSpec) (given : Option String) : Option Bool :=
  spec.correctResponse.map fun correct =>
    match spec.response, given with
    | _, none => false
    | .text _, some given => given == correct
    | _, some given => Key.same given correct

def outcome (trial : TrialInstance) (answer : Answer) : Outcome :=
  let isCorrect := judge trial.spec answer.given?
  { sequencePosition := trial.sequencePosition
    block := trial.spec.block
    repetition := trial.repetition
    grouping := trial.grouping
    stimulus := trial.spec.stimulus
    correctResponse := trial.spec.correctResponse
    actualResponse := answer.given?
    isCorrect
    timedOut := answer == .timeout
    feedbackShown := trial.spec.feedback.bind (·.resolve isCorrect) }

def record (clock : Clock) (trial : TrialInstance) (onset : Nat) (answer : Answer) :
    TrialRecord :=
  ⟨outcome trial answer, clock.since onset, clock.wall⟩

/-! ### Reports -/

def tokenText (t : Token) : String :=
  "TrialToken \x7b position: " ++ toString t.position ++ ", generation: "
    ++ toString t.generation ++ " \x7d"

def eventText : RunEvent → String
  | .start => "Start"
  | .key name => "Key(" ++ Text.quote name ++ ")"
  | .textSubmitted text => "TextSubmitted(" ++ Text.quote text ++ ")"
  | .timeout token => "Timeout(" ++ tokenText token ++ ")"
  | .feedbackElapsed token => "FeedbackElapsed(" ++ tokenText token ++ ")"

def judgementText : Option Bool → String
  | none => "None"
  | some true => "Some(true)"
  | some false => "Some(false)"

def unhandled (phase : Phase) (event : RunEvent) : Log :=
  [⟨.debug, "event not handled",
    [("phase", .text phase.label), ("event", .text (eventText event))]⟩]

/-! ### Answers to the trial on screen -/

def keysClosed (live : LiveTrial) (now : Nat) : Bool := live.keysClose.any (· ≤ now)

/-- What an event is to the trial on screen: the answer that ends it, or what is reported when
    it is none. -/
def answerTo (live : LiveTrial) (trial : TrialInstance) (now : Nat) :
    RunEvent → Except Log Answer
  | .key name =>
    if keysClosed live now then .error [⟨.debug, "key window closed", [("key", .text name)]⟩]
    else if trial.spec.response.acceptsKey name then .ok (.key (Key.normal name))
    else .error []
  | .textSubmitted text => if trial.spec.response.isText then .ok (.text text) else .error []
  | .timeout token =>
    if token = live.token then .ok .timeout
    else .error [⟨.debug, "ignoring stale timeout", [("token", .text (tokenText token))]⟩]
  | event => .error (unhandled .presenting event)

/-! ### Steps -/

/-- The run after an event, whether the event was accepted, and what was reported. -/
structure Step where
  run : Run
  accepted : Bool
  log : Log

def refuse (r : Run) (log : Log) : Step := ⟨r, false, log⟩

def finish (r : Run) : Step :=
  ⟨{ r with phase := .finished, active := none, shown := none }, true,
    [⟨.info, "run finished", [("results", .ofNat r.records.length)]⟩]⟩

/-- A trial that comes on screen, with its deadline and the end of its key window. -/
def arm (settings : RunSettings) (trial : TrialInstance) (token : Token) (onset : Nat) :
    LiveTrial :=
  let deadline := trial.spec.latencyMs.map fun ms => Duration.after onset (Duration.ofMillis ms)
  let keysClose := match trial.spec.response, deadline, settings.keyGrace with
    | .keys _, some _, some grace => some (Duration.after onset grace)
    | _, _, _ => none
  ⟨token, onset, deadline, keysClose⟩

/-- The trial at a position comes on screen; behind the last one the run is finished. -/
def present (r : Run) (clock : Clock) (position : Nat) : Step :=
  match r.trials[position]? with
  | none => r.finish
  | some trial =>
    let token : Token := ⟨position, r.generation + 1⟩
    ⟨{ r with
        phase := .presenting
        cursor := position
        generation := token.generation
        active := some (arm r.settings trial token clock.now)
        shown := none }, true,
      [⟨.debug, "presenting trial", [("position", .ofNat position),
        ("block", .number trial.spec.block), ("row", .ofNat trial.spec.row)]⟩]⟩

def advance (r : Run) (clock : Clock) : Step := r.present clock (r.cursor + 1)

def feedbackAfter (settings : RunSettings) (trial : TrialInstance) (token : Token) (now : Nat)
    (message : String) : ShownFeedback :=
  let hold := (trial.spec.feedbackDurationMs.map Duration.ofMillis).getD settings.feedbackTime
  ⟨token, message, Duration.after now hold⟩

/-- The trial on screen is resolved: it is recorded, and its feedback or else the next trial
    comes up. -/
def resolve (r : Run) (clock : Clock) (live : LiveTrial) (trial : TrialInstance)
    (answer : Answer) : Step :=
  let entry := record clock trial live.onset answer
  let log : Log := [⟨.debug, "trial resolved", [
    ("position", .ofNat entry.outcome.sequencePosition), ("rt_ms", .time entry.responseTime),
    ("is_correct", .text (judgementText entry.outcome.isCorrect)),
    ("timed_out", .flag entry.outcome.timedOut)]⟩]
  let r := { r with active := none, records := r.records ++ [entry] }
  match entry.outcome.feedbackShown with
  | some message =>
    ⟨{ r with
        phase := .resolved
        shown := some (feedbackAfter r.settings trial live.token clock.now message) }, true, log⟩
  | none =>
    let next := r.advance clock
    { next with log := log ++ next.log }

def handle (r : Run) (clock : Clock) (event : RunEvent) : Step :=
  match r.phase, event with
  | .idle, .start =>
    let step := { r with startedAt := some clock.wall }.present clock 0
    { step with log :=
        ⟨.info, "run started", [("trials", .ofNat r.trials.length)]⟩ :: step.log }
  | .presenting, event =>
    match r.live? with
    | some (live, trial) =>
      match answerTo live trial clock.now event with
      | .ok answer => r.resolve clock live trial answer
      | .error log => r.refuse log
    | none => r.refuse []
  | .resolved, .feedbackElapsed token =>
    if r.shown.map (·.token) = some token then { r with shown := none }.advance clock
    else
      r.refuse [⟨.debug, "ignoring stale feedback timer", [("token", .text (tokenText token))]⟩]
  | phase, event => r.refuse (unhandled phase event)

end TimedTrials.Run
