/-
  TimedTrials/Run/Basic.lean
  ==========================
  **A run of a sequence**: which trial is on screen, what is recorded, what may happen next.

  A run is idle until it is started, then it presents its trials one at a time, shows
  feedback after a trial where there is some, and is finished after the last one. Each
  presentation has a token of its own, and timers carry the token of the presentation that
  set them, so a late timer is told apart from the one that is waited for.

  The phase, the trial on screen and the feedback on screen are kept side by side. That they
  fit together at all times is no matter of their types: it is what the operations preserve.
-/
import TimedTrials.Clock.Basic
import TimedTrials.Trial.Instance

namespace TimedTrials

/-! ### Tokens and phases -/

/-- One presentation of the trial at a position. -/
structure Token where
  position : Nat
  generation : Nat
deriving DecidableEq, Repr

/-- A trial on screen: its onset, when it times out if it does, and from when on keys are no
    longer taken if there is such a time. -/
structure LiveTrial where
  token : Token
  onset : Nat
  deadline : Option Nat
  keysClose : Option Nat
deriving DecidableEq, Repr

/-- Feedback on screen after the trial of the token, up to a reading of the clock. -/
structure ShownFeedback where
  token : Token
  message : String
  holdUntil : Nat
deriving DecidableEq, Repr

inductive Phase where
  | idle
  | presenting
  | resolved
  | finished
deriving DecidableEq, Repr

namespace Phase

def allowsInput : Phase → Bool
  | .presenting => true
  | _ => false

def isRunning : Phase → Bool
  | .presenting | .resolved => true
  | _ => false

def isFinished : Phase → Bool
  | .finished => true
  | _ => false

def label : Phase → String
  | .idle => "idle"
  | .presenting => "presenting"
  | .resolved => "resolved"
  | .finished => "finished"

def title : Phase → String
  | .idle => "Idle"
  | .presenting => "Presenting"
  | .resolved => "Resolved"
  | .finished => "Finished"

end Phase

/-! ### Events and settings -/

/-- What can happen to a run: its start, a key or a text from the participant, and timers. -/
inductive RunEvent where
  | start
  | key (name : String)
  | textSubmitted (text : String)
  | timeout (token : Token)
  | feedbackElapsed (token : Token)
deriving DecidableEq, Repr

/-- On key trials that also time out, keys are only taken this long after onset, in
    milliseconds. -/
def keyGraceMs : Nat := 50

/-- How long feedback stays up by default, in milliseconds. -/
def feedbackMs : Nat := 1000

/-- Durations in nanoseconds: of feedback that names none, and of the key window; without the
    latter, keys are taken until the timeout. -/
structure RunSettings where
  feedbackTime : Nat
  keyGrace : Option Nat
deriving DecidableEq, Repr

def RunSettings.ofMillis (feedback : Nat) (keyGrace : Option Nat) : RunSettings :=
  ⟨Duration.ofMillis feedback, keyGrace.map Duration.ofMillis⟩

def RunSettings.standard : RunSettings := RunSettings.ofMillis feedbackMs (some keyGraceMs)

/-! ### Runs -/

/-- A run: its trials and settings, which never change, its phase, the position of the trial
    presented last, how many trials it has presented, the trial and the feedback on screen, its
    records until they are handed over, and when it was started. -/
structure Run where
  trials : List TrialInstance
  settings : RunSettings
  phase : Phase
  cursor : Nat
  generation : Nat
  active : Option LiveTrial
  shown : Option ShownFeedback
  records : List TrialRecord
  startedAt : Option Int
  delivered : Bool
deriving DecidableEq, Repr

namespace Run

def new (trials : List TrialInstance) (settings : RunSettings) : Run :=
  { trials, settings
    phase := .idle
    cursor := 0
    generation := 0
    active := none
    shown := none
    records := []
    startedAt := none
    delivered := false }

/-- The trial on screen with what was set up at its onset. -/
def live? (r : Run) : Option (LiveTrial × TrialInstance) :=
  r.active.bind fun live => r.trials[live.token.position]?.map fun trial => (live, trial)

def current? (r : Run) : Option TrialInstance := r.live?.map (·.2)

def token? (r : Run) : Option Token := r.active.map (·.token)

/-- The trial whose feedback is on screen, with the message. -/
def feedback? (r : Run) : Option (TrialInstance × String) :=
  r.shown.bind fun shown => r.trials[shown.token.position]?.map fun t => (t, shown.message)

def nextDeadline (r : Run) : Option Nat :=
  match r.phase with
  | .presenting => r.active.bind (·.deadline)
  | .resolved => r.shown.map (·.holdUntil)
  | .idle | .finished => none

/-- The timer that is due at a reading, if there is one. Nothing changes by asking. -/
def due (r : Run) (now : Nat) : Option RunEvent :=
  match r.phase with
  | .presenting =>
    r.active.bind fun live =>
      if live.deadline.any (· ≤ now) then some (.timeout live.token) else none
  | .resolved =>
    r.shown.bind fun shown =>
      if shown.holdUntil ≤ now then some (.feedbackElapsed shown.token) else none
  | .idle | .finished => none

/-- The records of a finished run, which are handed over once, and the run after it. -/
def takeRecords (r : Run) : Option (List TrialRecord) × Run :=
  if !r.phase.isFinished || r.delivered then (none, r)
  else (some r.records, { r with records := [], delivered := true })

end Run

end TimedTrials
