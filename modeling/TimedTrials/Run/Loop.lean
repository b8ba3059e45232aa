/-
  TimedTrials/Run/Loop.lean
  =========================
  **Driving a run to its end.**

  The loop starts the run and then goes round: timers that are due come first, then the
  source is asked for the next input until the next deadline. Once the source is closed, the
  clock moves straight to the next deadline; a run that waits for input without a deadline is
  then given up.

  A turn either takes an input from the source, or moves the clock to a deadline that the
  next turn acts upon, so the number of turns of a finite source is bounded by the number of
  its inputs and of the trials.
-/
import TimedTrials.Run.Handle
import TimedTrials.Run.Source

namespace TimedTrials.Run

/-- How a run ended: with its records, or because its source closed too early. -/
inductive Ending where
  | complete (records : List TrialRecord)
  | abandoned
  /-- The turns that were granted did not suffice. -/
  | unfinished
deriving DecidableEq, Repr

/-- The run after an accepted event, with the reading of the clock. -/
structure Change where
  now : Nat
  run : Run
deriving DecidableEq, Repr

/-- A run in its loop: the clock, the source, whether it is closed, the changes so far, and
    the reports so far. -/
structure Driven (σ : Type) where
  run : Run
  clock : Clock
  source : σ
  closed : Bool
  changes : List Change
  log : Log

namespace Driven

variable {σ : Type}

/-- Gives an event to the run. An accepted one is a change that the source gets to see. -/
def apply (observe : σ → Change → σ) (d : Driven σ) (event : RunEvent) : Driven σ :=
  let step := d.run.handle d.clock event
  let d := { d with run := step.run, log := d.log ++ step.log }
  if step.accepted then
    let change : Change := ⟨d.clock.now, step.run⟩
    { d with source := observe d.source change, changes := d.changes ++ [change] }
  else d

def poll (observe : σ → Change → σ) (d : Driven σ) : Driven σ :=
  match d.run.due d.clock.now with
  | some event => d.apply observe event
  | none => d

/-- Gives an input to the run; the end of all input closes the source. -/
def receive (observe : σ → Change → σ) (d : Driven σ) : Input → Driven σ
  | .key name => d.apply observe (.key name)
  | .text value => d.apply observe (.textSubmitted value)
  | .closed => { d with closed := true }

def takeInput (wait : Wait σ) (observe : σ → Change → σ) (d : Driven σ) : Driven σ :=
  let limit := d.run.nextDeadline.map (max d.clock.now)
  let waited := wait d.source d.clock limit
  let d := { d with clock := waited.clock, source := waited.source }
  match waited.input with
  | some input => d.receive observe input
  | none => d

/-- What comes next once no timer is due: the end, the time until a deadline, or a wait for
    input. -/
inductive Next (σ : Type) where
  | done (ending : Ending) (d : Driven σ)
  | sleep (deadline : Nat)
  | await

/-- What comes next. A run over its last trial hands out its records; one that nothing can
    reach any more is given up. -/
def next (d : Driven σ) : Next σ :=
  if d.run.phase.isFinished then
    let (records, run) := d.run.takeRecords
    match records with
    | some records => .done (.complete records) { d with run := run }
    | none => .done .abandoned d
  else if d.closed then
    match d.run.nextDeadline with
    | some deadline => .sleep deadline
    | none =>
      .done .abandoned { d with log := d.log ++ [⟨.warn, "input closed before the run finished",
        [("completed", .ofNat d.run.records.length)]⟩] }
  else .await

/-- Goes round until the run is over or no turns are left. -/
def turns (wait : Wait σ) (observe : σ → Change → σ) : Nat → Driven σ → Ending × Driven σ
  | 0, d => (.unfinished, d)
  | fuel + 1, d =>
    let d := d.poll observe
    match d.next with
    | .done ending d => (ending, d)
    | .sleep deadline => turns wait observe fuel { d with clock := d.clock.moveTo deadline }
    | .await => turns wait observe fuel (d.takeInput wait observe)

end Driven

def started {σ : Type} (observe : σ → Change → σ) (run : Run) (clock : Clock) (source : σ) :
    Driven σ :=
  let d : Driven σ := ⟨run, clock, source, false, [], []⟩
  d.apply observe .start

def drive {σ : Type} (fuel : Nat) (wait : Wait σ) (observe : σ → Change → σ) (run : Run)
    (clock : Clock) (source : σ) : Ending × Driven σ :=
  (started observe run clock source).turns wait observe fuel

/-- Turns that suffice for a source with so many inputs: each input takes one turn, its end
    another, and each trial has at most one deadline for itself and one for its feedback, each
    of which takes a turn to reach. -/
def turnsFor (run : Run) (inputs : Nat) : Nat := inputs + 4 * run.trials.length + 4

/-- What becomes of a source that takes no notice of changes. -/
def unobserved {σ : Type} (source : σ) (_ : Change) : σ := source

def driveScript (run : Run) (clock : Clock) (script : Script) : Ending × Driven Script :=
  drive (turnsFor run script.length) Script.wait unobserved run clock script

/-- Drives a run with what a closed channel still holds. -/
def driveChannel (run : Run) (clock : Clock) (channel : Channel) : Ending × Driven Channel :=
  drive (turnsFor run channel.queue.length) Channel.wait unobserved run clock channel

end TimedTrials.Run
