/-
  TimedTrials/Trial/Instance.lean
  ===============================
  **Trials in a sequence, and what became of them.**

  An instance is a trial of the table at one place of a sequence, with the counters that tell
  which repetition of its block or section it belongs to. An outcome says how one instance
  was answered; a record adds when and how fast, as measured.
-/
import TimedTrials.Trial.Spec

namespace TimedTrials

/-- The repetition that an instance belongs to: of its own block, or of its section. -/
inductive Grouping where
  | fixed (blockRepetition : Nat)
  | sectioned (sectionId : Int) (sectionRepetition : Nat)
deriving DecidableEq, Repr

/-- A trial at one place of a sequence. The repetition of the whole sequence counts from one,
    the position from zero. -/
structure TrialInstance where
  spec : TrialSpec
  repetition : Nat
  grouping : Grouping
  sequencePosition : Nat
deriving DecidableEq, Repr

/-- How an instance was answered. A trial without a correct response is neither right nor
    wrong. -/
structure Outcome where
  sequencePosition : Nat
  block : Int
  repetition : Nat
  grouping : Grouping
  stimulus : String
  correctResponse : Option String
  actualResponse : Option String
  isCorrect : Option Bool
  timedOut : Bool
  feedbackShown : Option String
deriving DecidableEq, Repr

/-- An outcome with the time from onset to response, in nanoseconds, and the instant of the
    response, in nanoseconds since the start of 1970. -/
structure TrialRecord where
  outcome : Outcome
  responseTime : Nat
  instant : Int
deriving DecidableEq, Repr

end TimedTrials
