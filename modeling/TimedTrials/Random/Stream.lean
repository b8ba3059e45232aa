/-
  TimedTrials/Random/Stream.lean
  ==============================
  **The stream of words of a seed.**

  A 64-bit seed is spread into a key of eight words by a linear congruence with a permuted
  output; the words of the stream are the output of the ChaCha block function with twelve
  rounds under that key, block after block.
-/
import TimedTrials.Random.Words

namespace TimedTrials.Random

/-! ### The key of a seed -/

/-- One step of the congruence. -/
def spreadStep (s : UInt64) : UInt64 := s * 6364136223846793005 + 11634580027462260723

def rotateRight (x k : UInt32) : UInt32 := (x >>> k) ||| (x <<< ((32 - k) % 32))

def spreadWord (s : UInt64) : UInt32 :=
  rotateRight (((s >>> 18) ^^^ s) >>> 27).toUInt32 (s >>> 59).toUInt32

def spread : Nat → UInt64 → List UInt32
  | 0, _ => []
  | n + 1, s => spreadWord (spreadStep s) :: spread n (spreadStep s)

/-! ### The block function -/

def rotateLeft (x k : UInt32) : UInt32 := (x <<< k) ||| (x >>> (32 - k))

abbrev Block := Array UInt32

/-- Mixes four words of a block. -/
def quarterRound (b : Block) (i j k l : Nat) : Block :=
  let a := b.getD i 0
  let d := b.getD l 0
  let c := b.getD k 0
  let e := b.getD j 0
  let a := a + e
  let d := rotateLeft (d ^^^ a) 16
  let c := c + d
  let e := rotateLeft (e ^^^ c) 12
  let a := a + e
  let d := rotateLeft (d ^^^ a) 8
  let c := c + d
  let e := rotateLeft (e ^^^ c) 7
  (((b.setIfInBounds i a).setIfInBounds j e).setIfInBounds k c).setIfInBounds l d

/-- A round over the columns and one over the diagonals. -/
def doubleRound (b : Block) : Block :=
  let b := quarterRound b 0 4 8 12
  let b := quarterRound b 1 5 9 13
  let b := quarterRound b 2 6 10 14
  let b := quarterRound b 3 7 11 15
  let b := quarterRound b 0 5 10 15
  let b := quarterRound b 1 6 11 12
  let b := quarterRound b 2 7 8 13
  quarterRound b 3 4 9 14

/-- The block before the rounds: four constants, the key, the block's number and zeros. -/
def initialBlock (key : List UInt32) (number : Nat) : Block :=
  (#[0x61707865, 0x3320646e, 0x79622d32, 0x6b206574] ++ key.toArray)
    ++ #[number.toUInt32, (number / wordCount).toUInt32, 0, 0]

def block (key : List UInt32) (number : Nat) : Block :=
  let start := initialBlock key number
  let mixed := (List.range 6).foldl (fun b _ => doubleRound b) start
  (List.range 16).foldl (fun b i => b.setIfInBounds i (b.getD i 0 + start.getD i 0)) mixed

def Generator.ofSeed (seed : Nat) : Generator :=
  let key := spread 8 seed.toUInt64
  { word := fun i => ((block key (i / 16)).getD (i % 16) 0).toNat, used := 0 }

end TimedTrials.Random
