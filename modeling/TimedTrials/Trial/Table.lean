/-
  TimedTrials/Trial/Table.lean
  ============================
  **Blocks of trials and the table that they form.**

  Rows with the same block number form a block, in the order of their rows. Blocks below one
  hundred are fixed; the others belong to the section of their hundreds. A table is put
  together by a builder that keeps an index from block numbers to places.
-/
import TimedTrials.Trial.Spec

namespace TimedTrials

/-! ### Blocks -/

/-- How many block numbers a section spans; smaller numbers belong to no section. -/
def sectionSpan : Int := 100

/-- A block that keeps its place, or one that is shuffled and repeated with its section. -/
inductive BlockKind where
  | fixed
  | sectioned (sectionId : Int)
deriving DecidableEq, Repr

def BlockKind.of (number : Int) : BlockKind :=
  if number < sectionSpan then .fixed else .sectioned (number / sectionSpan)

/-- Trials that share a block number, in row order, and how often the block is repeated. -/
structure Block where
  number : Int
  repeatCount : Nat
  trials : List TrialSpec
deriving DecidableEq, Repr

def Block.kind (b : Block) : BlockKind := BlockKind.of b.number

def Block.append (b : Block) (spec : TrialSpec) : Block := { b with trials := b.trials ++ [spec] }

/-! ### Tables -/

/-- The trials of an experiment, blocks in the order in which they were first seen. -/
structure TrialTable where
  blocks : List Block
deriving DecidableEq, Repr

namespace TrialTable

def block? (t : TrialTable) (number : Int) : Option Block :=
  t.blocks.find? (·.number == number)

def isEmpty (t : TrialTable) : Bool := t.blocks.isEmpty

def specs (t : TrialTable) : List TrialSpec := t.blocks.flatMap (·.trials)

def trialCount (t : TrialTable) : Nat := t.specs.length

end TrialTable

/-! ### Building a table -/

/-- The blocks so far, and for each number the place of the last block that has it. The newest
    entry of the index stands first and hides older ones. -/
structure TableBuilder where
  blocks : List Block
  index : List (Int × Nat)
deriving DecidableEq, Repr

namespace TableBuilder

def empty : TableBuilder := ⟨[], []⟩

def place? (b : TableBuilder) (number : Int) : Option Nat := b.index.lookup number

/-- Adds a block, which may be empty, at the end. -/
def pushBlock (b : TableBuilder) (block : Block) : TableBuilder :=
  ⟨b.blocks ++ [block], (block.number, b.blocks.length) :: b.index⟩

/-- Adds a trial to the last block with its number, or opens a new one. The repeat count only
    counts for a new block. -/
def push (b : TableBuilder) (spec : TrialSpec) (repeatCount : Nat) : TableBuilder :=
  match b.place? spec.block with
  | some i => { b with blocks := b.blocks.modify i (·.append spec) }
  | none => b.pushBlock ⟨spec.block, repeatCount, [spec]⟩

def build (b : TableBuilder) : TrialTable × TableBuilder := (⟨b.blocks⟩, empty)

end TableBuilder

end TimedTrials
