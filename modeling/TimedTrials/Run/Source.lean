/-
  TimedTrials/Run/Source.lean
  ===========================
  **Where a run's input comes from.**

  A source is asked for the next input and may be given a reading of the clock at which the
  wait ends; it moves the clock as long as it waits. `Script` replays inputs at fixed
  readings, `Channel` hands on what was sent to it and closes when nobody can send any more.
-/
import TimedTrials.Clock.Basic

namespace TimedTrials

inductive Input where
  | key (name : String)
  | text (value : String)
  | closed
deriving DecidableEq, Repr

/-- What a wait brought: an input or none, the clock after it, and the source's own state. -/
structure Waited (σ : Type) where
  input : Option Input
  clock : Clock
  source : σ

/-- A source by what its wait does, given a clock and the reading at which to stop waiting. -/
abbrev Wait (σ : Type) := σ → Clock → Option Nat → Waited σ

/-! ### Scripts -/

abbrev Script := List (Nat × Input)

namespace Script

/-- The next input if it comes in time, moving the clock to its reading, which never lies
    behind; otherwise the clock moves to the end of the wait, and a wait without an end brings
    the end of all input. -/
def wait : Wait Script := fun script clock limit =>
  let late : Waited Script :=
    match limit with
    | some limit => ⟨none, clock.moveTo limit, script⟩
    | none => ⟨some .closed, clock, script⟩
  match script with
  | [] => late
  | (reading, input) :: rest =>
    if limit.all (reading ≤ ·) then ⟨some input, clock.moveTo reading, rest⟩ else late

end Script

/-! ### Channels -/

/-- Inputs that were sent and not yet taken, and whether more can be sent. -/
structure Channel where
  queue : List Input
  isOpen : Bool
deriving DecidableEq, Repr

namespace Channel

def new : Channel := ⟨[], true⟩

def send (c : Channel) (input : Input) : Bool × Channel :=
  if c.isOpen then (true, { c with queue := c.queue ++ [input] }) else (false, c)

def close (c : Channel) : Channel := { c with isOpen := false }

/-- The oldest input that was sent. An empty channel that is closed brings the end of all
    input at once; one that is open keeps waiting. -/
def wait : Wait Channel := fun c clock limit =>
  match c.queue with
  | input :: rest => ⟨some input, clock, { c with queue := rest }⟩
  | [] =>
    if c.isOpen then
      ⟨none, match limit with | some limit => clock.moveTo limit | none => clock, c⟩
    else ⟨some .closed, clock, c⟩

end Channel

end TimedTrials
