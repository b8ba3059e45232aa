/-
  TimedTrials/Presenter/Console.lean
  ==================================
  **Presenting a run in a terminal.**

  Every typed line is one response: the name of a key on a key trial, where an empty line is
  the space bar, and the answer itself on a text trial. A reader takes the lines one by one,
  looks up whether a text is expected just then, and sends the input to the run. Reader and
  run work side by side and share the channel and the note of what is expected, so the moves
  of both are given one by one here. In `run` the reader is the faster one: whenever the run
  waits, every line that has been typed is read, judged and sent.
-/
import TimedTrials.Picture.Markup
import TimedTrials.Presenter.Presentation
import TimedTrials.Run.Loop
import TimedTrials.Stimulus.Directive

namespace TimedTrials.Console

/-! ### What is printed -/

def segmentLines : Segment → List String
  | .markup text => Markup.plainLines text
  | .image ref => [s!"[image {ref.file}]"]

/-- The lines of a stimulus, or one line that says why there is none. -/
def stimulusLines (raw : String) : List String :=
  match Stimulus.read raw with
  | .ok stimulus => stimulus.segments.flatMap segmentLines
  | .error e => [s!"[unreadable stimulus: {e.message}]"]

def responseHint (r : Response) : List String :=
  match r with
  | .none => []
  | .keys _ => ["(keys: " ++ ", ".intercalate r.keyOptions ++ ")"]
  | .text options =>
    match options.placeholder with
    | some placeholder => [s!"(type an answer, e.g. {placeholder}, then Enter)"]
    | none => ["(type an answer, then Enter)"]

def describe (spec : TrialSpec) : List String :=
  stimulusLines spec.stimulus ++ responseHint spec.response

/-- What is printed when a run has changed: a trial with its number, or feedback. -/
def screen (run : Run) : List String :=
  match run.current?, run.feedback? with
  | some trial, _ =>
    ["", s!"[{trial.sequencePosition + 1}/{run.trials.length}]"]
      ++ (describe trial.spec).map ("  " ++ ·)
  | none, some (_, message) => ["  >> " ++ message]
  | none, none => []

def expectsText (run : Run) : Bool := run.current?.any (·.spec.response.isText)

/-- The input that a typed line stands for. -/
def readLine (expectsText : Bool) (line : String) : Input :=
  if expectsText then
    .text (String.ofList (line.toList.reverse.dropWhile fun c => c == '\r' || c == '\n').reverse)
  else
    let key := Text.trim line
    .key (if key.isEmpty then " " else key)

/-! ### The reader -/

/-- What the reader is at: ready for the next line, holding one, holding the input that it
    stands for, or done. -/
inductive Reader where
  | ready
  | holding (line : String)
  | judged (input : Input)
  | done
deriving DecidableEq, Repr

/-- A terminal: the lines that will be typed, each after so many trials have come on screen,
    the reader, how many trials have come on screen, whether a text is expected, and what was
    sent. -/
structure Terminal where
  lines : List (Nat × String)
  reader : Reader
  screens : Nat
  expectsText : Bool
  channel : Channel
deriving DecidableEq, Repr

namespace Terminal

def new (lines : List (Nat × String)) : Terminal := ⟨lines, .ready, 0, false, Channel.new⟩

/-- The next move of the reader: it takes a line that has been typed, judges the line it holds,
    or sends what it has judged. After the last line it sends the end and closes the channel. -/
def readerMove (t : Terminal) : Terminal :=
  match t.reader, t.lines with
  | .ready, [] => { t with reader := .done, channel := (t.channel.send .closed).2.close }
  | .ready, (after, line) :: rest =>
    if after ≤ t.screens then { t with lines := rest, reader := .holding line } else t
  | .holding line, _ => { t with reader := .judged (readLine t.expectsText line) }
  | .judged input, _ => { t with reader := .ready, channel := (t.channel.send input).2 }
  | .done, _ => t

/-- What the terminal sees of a change of the run. -/
def observe (t : Terminal) (change : Run.Change) : Terminal :=
  { t with
    expectsText := Console.expectsText change.run
    screens := if change.run.current?.isSome then t.screens + 1 else t.screens }

def readerMoves (t : Terminal) : Nat → Terminal
  | 0 => t
  | n + 1 => t.readerMove.readerMoves n

/-- The reader sends all lines that have been typed, and the end after the last one. Each line
    takes it three moves. -/
def catchUp (t : Terminal) : Terminal := t.readerMoves (3 * t.lines.length + 3)

/-- Waits for an input, once the reader has caught up. -/
def wait : Wait Terminal := fun t clock limit =>
  let t := t.catchUp
  let waited := Channel.wait t.channel clock limit
  ⟨waited.input, waited.clock, { t with channel := waited.source }⟩

end Terminal

/-! ### A whole run -/

/-- What presenting brought: what was printed, the failure if there was one, the files and the
    generator after it, and what was reported. -/
structure Presented where
  printed : List String
  failure : Option Failure
  storage : Storage
  generator : Random.Generator
  log : Log

/-- The failure of a run whose input ended too early. -/
def endedEarly : Failure :=
  .plain "input ended before the experiment finished; no results were saved"

/-- What becomes of a run that has ended: its results are saved and the closing words printed,
    or it failed. -/
def finish {σ : Type} (p : Presentation) (s : Storage) (g : Random.Generator)
    (ending : Run.Ending) (d : Run.Driven σ) : Presented :=
  match ending with
  | .complete records =>
    let saved := p.save s g (environmentText "console") d.clock.wall d.run.startedAt records
    match saved.outcome with
    | .error f => ⟨[], some f, saved.storage, saved.generator, d.log ++ saved.log⟩
    | .ok delivery =>
      ⟨["", delivery.completionMessage], none, saved.storage, saved.generator, d.log ++ saved.log⟩
  | _ =>
    ⟨[], some endedEarly, s, g, d.log ++ [⟨.warn, "run aborted",
      [("completed", .ofNat d.run.records.length)]⟩]⟩

/-- Presents a run at a terminal and saves its results. -/
def run (p : Presentation) (s : Storage) (g : Random.Generator) (clock : Clock)
    (lines : List (Nat × String)) : Presented :=
  let run := p.newRun
  let (ending, d) := Run.drive (run.turnsFor (lines.length + 1)) Terminal.wait Terminal.observe run
    clock (Terminal.new lines)
  let ended := finish p s g ending d
  { ended with printed := d.changes.flatMap (fun change => screen change.run) ++ ended.printed }

end TimedTrials.Console
