/-
  TimedTrials/Log.lean
  ====================
  **What the library reports while it works.**

  An entry is a value: a level, a message and named fields. Functions that report give their
  entries back beside their result, in the order in which things happen, and leave it to the
  command line to print them.
-/
namespace TimedTrials

inductive LogLevel where
  | warn
  | info
  | debug
deriving DecidableEq, Repr

def LogLevel.name : LogLevel → String
  | .warn => "WARN"
  | .info => "INFO"
  | .debug => "DEBUG"

/-- The value of a field. A time is given in nanoseconds and shown in milliseconds. -/
inductive LogValue where
  | number (n : Int)
  | time (ns : Nat)
  | flag (b : Bool)
  | text (s : String)
deriving DecidableEq, Repr

structure LogEntry where
  level : LogLevel
  message : String
  fields : List (String × LogValue)
deriving DecidableEq, Repr

/-- The reports of a computation, oldest first. -/
abbrev Log := List LogEntry

def LogValue.ofNat (n : Nat) : LogValue := .number n

end TimedTrials
