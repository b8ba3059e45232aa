/-
  TimedTrials/Presenter/Window.lean
  =================================
  **Presenting a run in a window**, one frame after the other.

  A frame first lets timers happen that are due, then draws if something has changed, and
  then shows the surface. When the run is over, one frame shows that results are being saved
  and the next one saves them. Without a surface nothing is drawn, and a frame fails once it
  comes to showing it.
-/
import TimedTrials.Clock.Frames
import TimedTrials.Number.Binary64
import TimedTrials.Picture.Canvas
import TimedTrials.Presenter.Presentation
import TimedTrials.Run.Handle

namespace TimedTrials

/-- Where a window is beyond what its run knows: the results are yet to be saved after the
    run, and the closing words are shown in the end. -/
inductive WindowStage where
  | running
  | saving
  | done (message : String)
deriving DecidableEq, Repr

/-- A window. The surface is there once the system has made one, and so are the canvas, the
    size and the refresh rate; the entry is what has been typed on a text trial. -/
structure Window where
  presentation : Presentation
  run : Run
  frames : FrameLog
  lastFrame : Option Nat
  surface : Option Picture
  canvas : Option Canvas
  size : Option (Nat × Nat)
  refreshHz : Option Float
  stage : WindowStage
  entry : String
  isDirty : Bool

/-- What an operation brought: the window, the files and the generator after it, the failure
    if there was one, and what was reported. -/
structure Window.Done where
  window : Window
  storage : Storage
  generator : Random.Generator
  failure : Option Failure
  log : Log

namespace Window

def new (p : Presentation) : Window :=
  { presentation := p
    run := p.newRun
    frames := FrameLog.empty
    lastFrame := none
    surface := none
    canvas := none
    size := none
    refreshHz := none
    stage := .running
    entry := ""
    isDirty := true }

/-! ### Events -/

/-- The window after its run has accepted an event. -/
def afterTransition (w : Window) : Window :=
  { w with
    entry := ""
    isDirty := true
    stage := if w.run.phase.isFinished then .saving else w.stage }

/-- Gives an event to the run; tells whether it was accepted, and what was reported. -/
def handle (w : Window) (clock : Clock) (event : RunEvent) : Window × Bool × Log :=
  let step := w.run.handle clock event
  let next := { w with run := step.run }
  (if step.accepted then next.afterTransition else next, step.accepted, step.log)

/-- Takes over a new size. A canvas that cannot have it stays as it is, with a warning. -/
def resize (w : Window) (width height : Nat) : Window × Log :=
  let next := { w with size := some (width, height), isDirty := true }
  match w.canvas.map fun canvas : Canvas => canvas.resize width height with
  | none => (next, [])
  | some (.ok canvas) => ({ next with canvas := some canvas }, [])
  | some (.error e) =>
    (next, [⟨.warn, "failed to resize canvas", [("error", .text e.message)]⟩])

/-! ### Drawing -/

def savingMessage : String := "Saving results..."

def screen (w : Window) : Screen :=
  match w.stage with
  | .saving => .message savingMessage
  | .done message => .message message
  | .running =>
    match w.run.current?, w.run.feedback? with
    | some trial, _ =>
      .trial trial.spec (if trial.spec.response.isText then some w.entry else none)
    | none, some (trial, message) => .feedback trial.spec message
    | none, none => .blank

/-- Draws the screen onto the surface, if there are a canvas and a surface. -/
def draw (w : Window) : Window × Option Failure × Log :=
  match w.canvas, w.surface with
  | some canvas, some _ =>
    let done := canvas.draw w.screen
    let next := { w with canvas := some done.canvas }
    match done.outcome with
    | .ok () => ({ next with surface := some done.canvas.picture }, none, done.log)
    | .error e => (next, some (.plain e.message), done.log)
  | _, _ => (w, none, [])

/-! ### Saving -/

/-- What is recorded about the window and the pace of its frames. -/
def environment (w : Window) : String :=
  let (width, height) := w.size.getD (0, 0)
  let rate := (w.refreshHz.map (Number.fixedPlaces 1)).getD "?"
  let s := w.frames.summary
  environmentText "window" ++ s!"; {width}x{height} @ {rate} Hz; {s.samples} frames, mean "
    ++ Number.fixedPlaces 3 (s.average / 1e6) ++ " ms, jitter "
    ++ Number.fixedPlaces 3 (s.jitter / 1e6) ++ " ms, "
    ++ Number.fixedPlaces 1 s.framesPerSecond ++ " fps"

/-- Saves the results of a finished run. They are handed over once only, so nothing happens if
    there are none any more. -/
def save (w : Window) (s : Storage) (g : Random.Generator) (clock : Clock) : Done :=
  let (records, run) := w.run.takeRecords
  match records with
  | none => ⟨w, s, g, none, []⟩
  | some records =>
    let w := { w with run := run }
    let saved := w.presentation.save s g w.environment clock.wall w.run.startedAt records
    match saved.outcome with
    | .error f => ⟨w, saved.storage, saved.generator, some f, saved.log⟩
    | .ok delivery =>
      ⟨{ w with stage := .done delivery.completionMessage, isDirty := true }, saved.storage,
        saved.generator, none, saved.log⟩

/-! ### Frames -/

/-- Lets a timer that is due happen. -/
def poll (w : Window) (clock : Clock) : Window × Log :=
  match w.run.due clock.now with
  | none => (w, [])
  | some event =>
    let (w, _, log) := w.handle clock event
    (w, log)

/-- Saves in the stage for it, once the screen that says so has been drawn. -/
def saveIfDrawn (w : Window) (s : Storage) (g : Random.Generator) (clock : Clock) : Done :=
  match w.stage, w.isDirty with
  | .saving, false => w.save s g clock
  | _, _ => ⟨w, s, g, none, []⟩

def refresh (w : Window) : Window × Option Failure × Log :=
  if w.isDirty then
    match w.draw with
    | (w, none, log) => ({ w with isDirty := false }, none, log)
    | failed => failed
  else (w, none, [])

/-- Shows the surface, and notes how long the frame before it has lasted. -/
def present (w : Window) (clock : Clock) : Window × Option Failure :=
  match w.surface with
  | none => (w, some (.plain "surface missing"))
  | some _ =>
    let frames := match w.lastFrame with
      | some last => w.frames.record (clock.since last)
      | none => w.frames
    ({ w with frames := frames, lastFrame := some clock.now }, none)

def frame (w : Window) (s : Storage) (g : Random.Generator) (clock : Clock) : Done :=
  let (w, log) := w.poll clock
  let saved := w.saveIfDrawn s g clock
  let log := log ++ saved.log
  match saved.failure with
  | some f => ⟨saved.window, saved.storage, saved.generator, some f, log⟩
  | none =>
    let (w, failure, drawLog) := saved.window.refresh
    let log := log ++ drawLog
    match failure with
    | some f => ⟨w, saved.storage, saved.generator, some f, log⟩
    | none =>
      let (w, failure) := w.present clock
      ⟨w, saved.storage, saved.generator, failure, log⟩

end Window

end TimedTrials
