/-
  TimedTrials/Text/Ranges.lean
  ============================
  **Tables of characters by their code points.**

  A class of characters is a list of ranges. A mapping of characters is a list of runs, because
  most alphabets go over into another one by one fixed distance; a run of step two is an
  alphabet whose letters alternate with those of the other one.
-/
namespace TimedTrials.Text

def inRanges (ranges : List (Nat × Nat)) (n : Nat) : Bool :=
  ranges.any fun r => decide (r.1 ≤ n) && decide (n ≤ r.2)

/-- A run of characters that share their distance to what replaces them: the code points
    `first`, `first + step`, …, `last`. -/
structure ShiftRun where
  first : Nat
  last : Nat
  step : Nat
  distance : Int

/-- What replaces a code point of the run. -/
def ShiftRun.shift? (run : ShiftRun) (n : Nat) : Option Nat :=
  if run.first ≤ n ∧ n ≤ run.last ∧ (n - run.first) % run.step = 0 then
    some ((n : Int) + run.distance).toNat
  else none

end TimedTrials.Text
