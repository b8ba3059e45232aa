/-
  TimedTrials/Clock/Basic.lean
  ============================
  **The clock of a run**: a count of nanoseconds that only moves forward.

  A reading is a 64-bit count; what would lie beyond stays at the largest reading, so that no
  deadline ever wraps around to an early one. The wall clock is derived from the reading and
  serves for timestamps only.
-/
import TimedTrials.Clock.Calendar
import TimedTrials.Number.Integer

namespace TimedTrials

/-! ### Durations in nanoseconds -/

namespace Duration

def limit : Nat := Number.max64

def clamp (ns : Nat) : Nat := min ns limit

def ofMillis (ms : Nat) : Nat := clamp (ms * Calendar.perMilli)

/-- The reading a duration after another one; never beyond the largest. -/
def after (reading ns : Nat) : Nat := clamp (reading + ns)

def millis (ns : Nat) : Float := Float.ofNat ns / 1e6

end Duration

/-! ### Clocks -/

/-- A clock with the wall-clock time of its zero, in nanoseconds since the start of 1970, and
    its reading. -/
structure Clock where
  epoch : Int
  now : Nat
deriving DecidableEq, Repr

namespace Clock

def advance (c : Clock) (ns : Nat) : Clock := { c with now := Duration.after c.now (Duration.clamp ns) }

/-- Moves the clock forward to a reading; it never moves back. -/
def moveTo (c : Clock) (reading : Nat) : Clock := { c with now := max c.now reading }

/-- The time passed since a reading; none if it lies ahead. -/
def since (c : Clock) (reading : Nat) : Nat := c.now - reading

def signed64 (n : Nat) : Int := if n < 0x8000000000000000 then n else (n : Int) - 0x10000000000000000

def wall (c : Clock) : Int := c.epoch + signed64 c.now

end Clock

end TimedTrials
