/-
  TimedTrials/Picture/Runs.lean
  =============================
  **Pictures in a short written form**: runs of equal pixels along each row, and runs of equal
  rows.
-/
import TimedTrials.Picture.Basic

namespace TimedTrials

/-- Puts a value before runs: equal neighbours are counted together. -/
def consRun {α : Type} [BEq α] (x : α) : List (Nat × α) → List (Nat × α)
  | (n, y) :: rest => if x == y then (n + 1, y) :: rest else (1, x) :: (n, y) :: rest
  | [] => [(1, x)]

def runs {α : Type} [BEq α] (xs : List α) : List (Nat × α) := xs.foldr consRun []

/-- The runs of a picture: how often each row stands below the other, and its own runs. -/
def Picture.runs (p : Picture) : List (Nat × List (Nat × Pixel)) :=
  TimedTrials.runs (p.rows.map TimedTrials.runs)

def hexByte (b : UInt8) : List Char :=
  [Nat.digitChar (b.toNat / 16), Nat.digitChar (b.toNat % 16)]

def Pixel.hex (p : Pixel) : String := String.ofList (p.bytes.flatMap hexByte)

end TimedTrials
