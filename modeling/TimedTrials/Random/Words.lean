/-
  TimedTrials/Random/Words.lean
  =============================
  **Random words, numbers below a bound, and shuffles.**

  A generator is an endless stream of 32-bit words and the count of words taken from it.
  Whatever needs chance takes the generator and gives it back, so a seed settles every
  outcome. A number below a bound takes one word and now and then a second one; a shuffle
  swaps each place with one at or before it, and takes several of these choices out of one
  number as long as their product fits 32 bits.
-/
namespace TimedTrials.Random

/-! ### Generators -/

def wordCount : Nat := 0x100000000

/-- A stream of 32-bit words and how many of them are used up. -/
structure Generator where
  word : Nat → Nat
  used : Nat

def Generator.next (g : Generator) : Nat × Generator :=
  (g.word g.used % wordCount, { g with used := g.used + 1 })

/-- The words of a list, over and over again. -/
def Generator.cycle (words : List Nat) : Generator :=
  { word := fun i => words.getD (i % words.length) 0, used := 0 }

def Generator.take : Nat → Generator → List Nat × Generator
  | 0, g => ([], g)
  | n + 1, g =>
    let (w, g) := g.next
    let (ws, g) := take n g
    (w :: ws, g)

/-! ### Numbers below a bound -/

/-- A number below `n`, for `0 < n < wordCount`: the high half of a word times `n`, corrected by a
    second word when the low half leaves the first choice open. -/
def below (n : Nat) (g : Generator) : Nat × Generator :=
  let (w, g) := g.next
  let high := w * n / wordCount
  let low := w * n % wordCount
  if wordCount - n < low then
    let (w, g) := g.next
    if wordCount ≤ low + w * n / wordCount then (high + 1, g) else (high, g)
  else (high, g)

/-! ### Shuffles -/

def swap {α : Type} (xs : Array α) (i j : Nat) : Array α := xs.swapIfInBounds i j

/-- Choices still to be read off the last number: the place that comes next, what is left of
    the number, and for how many choices it is good. -/
structure Choices where
  place : Nat
  chunk : Nat
  left : Nat

/-- How many places from `first` on fit one number, and the product of their bounds. -/
def batch (first : Nat) : Nat × Nat :=
  let rec go : Nat → Nat → Nat → Nat × Nat
    | 0, product, current => (product, current - first)
    | fuel + 1, product, current =>
      if product * current < wordCount then go fuel (product * current) (current + 1)
      else (product, current - first)
  go 32 first (first + 1)

/-- The next choice: a place at or before the current one. -/
def Choices.next (c : Choices) (g : Generator) : Nat × Choices × Generator :=
  let bound := c.place + 1
  let (chunk, left, g) :=
    if c.left = 0 then
      let (product, count) := batch bound
      let (chunk, g) := below product g
      (chunk, count, g)
    else (c.chunk, c.left, g)
  if left = 1 then (chunk, ⟨bound, 0, 0⟩, g)
  else (chunk % bound, ⟨bound, chunk / bound, left - 1⟩, g)

/-- Swaps the places from `i` on, `count` of them. -/
def shuffleFrom {α : Type} : Nat → Nat → Choices → Array α → Generator → Array α × Generator
  | 0, _, _, xs, g => (xs, g)
  | count + 1, i, c, xs, g =>
    let (j, c, g) := c.next g
    shuffleFrom count (i + 1) c (swap xs i j) g

/-- A random order of a list. Fewer than two items take no word. -/
def shuffle {α : Type} (xs : List α) (g : Generator) : List α × Generator :=
  if xs.length ≤ 1 then (xs, g)
  else
    let (ys, g) := shuffleFrom xs.length 0 ⟨0, 0, 1⟩ xs.toArray g
    (ys.toList, g)

end TimedTrials.Random
