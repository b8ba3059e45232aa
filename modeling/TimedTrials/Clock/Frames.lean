/-
  TimedTrials/Clock/Frames.lean
  =============================
  **The pacing of a display**: the times of its last frames and their summary.

  Only the latest thousand frames are kept. Sums run over them in order, in double precision.
-/
namespace TimedTrials

/-- The times of the latest frames in nanoseconds, oldest first. -/
structure FrameLog where
  times : List Nat
deriving DecidableEq, Repr

/-- A summary of frame times in nanoseconds; all zero when there are none. -/
structure FrameSummary where
  samples : Nat
  average : Float
  jitter : Float
  shortest : Float
  longest : Float
  framesPerSecond : Float

namespace FrameLog

def empty : FrameLog := ⟨[]⟩

def capacity : Nat := 1000

def record (log : FrameLog) (ns : Nat) : FrameLog :=
  ⟨(if log.times.length < capacity then log.times else log.times.drop 1) ++ [ns]⟩

def sum (xs : List Float) : Float := xs.foldl (· + ·) 0

/-- The smaller of two numbers, where what is not a number does not count. -/
def smaller (a b : Float) : Float :=
  if a.isNaN then b else if b.isNaN then a else if b < a then b else a

/-- The larger of two numbers, where what is not a number does not count. -/
def larger (a b : Float) : Float :=
  if a.isNaN then b else if b.isNaN then a else if a < b then b else a

/-- The summary of the frames. Jitter is their standard deviation. -/
def summary (log : FrameLog) : FrameSummary :=
  match log.times.map Float.ofNat with
  | [] => ⟨0, 0, 0, 0, 0, 0⟩
  | x :: rest =>
    let xs := x :: rest
    let count := Float.ofNat xs.length
    let average := sum xs / count
    let variance := sum (xs.map fun x => (x - average) * (x - average)) / count
    { samples := xs.length
      average
      jitter := variance.sqrt
      shortest := rest.foldl smaller x
      longest := rest.foldl larger x
      framesPerSecond := if average > 0 then 1e9 / average else 0 }

end FrameLog

end TimedTrials
