/-
  TimedTrials/Sequence.lean
  =========================
  **The sequence of trials that a table stands for.**

  One pass walks the blocks in authored order. A fixed block emits its trials once per
  repetition. A section is emitted as a whole at its leading block, the one with the lowest
  number, which also supplies the repeat count; at the other blocks of the section nothing
  is emitted. Each such emission is a batch of trials with one tag, and only batches of
  sections are shuffled. The whole pass is repeated, and positions are counted last.

  The length is counted ahead, in words of 64 bits, and room is made for so many instances. A
  number that does not fit is no error that is given back: the program stops there. That there
  is as much memory as is asked for is taken for granted.
-/
import TimedTrials.Log
import TimedTrials.Random.Words
import TimedTrials.Trial.Instance
import TimedTrials.Trial.Table

namespace TimedTrials

/-! ### Options and errors -/

/-- How often the whole sequence is repeated, and whether sections are shuffled. -/
structure SequenceOptions where
  repetitions : Nat
  randomizeSections : Bool
deriving DecidableEq, Repr

def SequenceOptions.standard : SequenceOptions := ⟨1, true⟩

inductive SequenceError where
  | emptyBlock (block : Int)
  | nonPositiveRepeat (block : Int)
  | nonPositiveRepetitions
  | emptyTable
deriving DecidableEq, Repr

def SequenceError.message : SequenceError → String
  | .emptyBlock block => s!"block {block} has no trials"
  | .nonPositiveRepeat block => s!"block {block} repeat count must be at least 1"
  | .nonPositiveRepetitions => "sequence repetitions must be at least 1"
  | .emptyTable => "table has no blocks"

def SequenceError.code : SequenceError → String
  | .emptyBlock _ => "EmptyBlock"
  | .nonPositiveRepeat _ => "NonPositiveRepeat"
  | .nonPositiveRepetitions => "NonPositiveRepetitions"
  | .emptyTable => "EmptyTable"

/-- A number that comes up while a sequence is counted ahead and does not fit: the trials of a fixed
    block in one pass, those of a block of a section, their sum, the length of the whole run, or
    the room for it. -/
inductive Overflow where
  | fixedBlock
  | sectionBlock
  | pass
  | run
  | room
deriving DecidableEq, Repr

def Overflow.message : Overflow → String
  | .fixedBlock | .sectionBlock | .run => "attempt to multiply with overflow"
  | .pass => "attempt to add with overflow"
  | .room => "capacity overflow"

/-- The place that the program names when it stops. Sums are taken by the library. -/
def Overflow.place : Overflow → String
  | .fixedBlock => "peg-experiment/src/compiler.rs:121:33"
  | .sectionBlock => "peg-experiment/src/compiler.rs:124:17"
  | .pass => "library/core/src/iter/traits/accum.rs:149:1"
  | .run => "peg-experiment/src/compiler.rs:128:5"
  | .room => "peg-experiment/src/compiler.rs:61:24"

/-- Why there is no sequence: an error is given back, or the program stops. -/
inductive SequenceFailure where
  | refused (e : SequenceError)
  | stopped (o : Overflow)
deriving DecidableEq, Repr

namespace TrialTable

def blockError? (b : Block) : Option SequenceError :=
  if b.trials.isEmpty then some (.emptyBlock b.number)
  else if b.repeatCount = 0 then some (.nonPositiveRepeat b.number)
  else none

def sequenceError? (t : TrialTable) (repetitions : Nat) : Option SequenceError :=
  if repetitions = 0 then some .nonPositiveRepetitions
  else if t.isEmpty then some .emptyTable
  else t.blocks.findSome? blockError?

/-! ### Sections -/

/-- A section as far as the blocks have been walked: the number and the repeat count of the
    block that leads, and all of its blocks in authored order. -/
structure Section where
  leader : Int
  repeatCount : Nat
  blocks : List Block
deriving DecidableEq, Repr

def Section.opened (b : Block) : Section := ⟨b.number, b.repeatCount, []⟩

/-- Adds a block. One with a lower number than the leader takes the lead and supplies the
    repeat count. -/
def Section.add (s : Section) (b : Block) : Section :=
  if b.number < s.leader then ⟨b.number, b.repeatCount, s.blocks ++ [b]⟩
  else { s with blocks := s.blocks ++ [b] }

/-- The sections after one more block. The newest entry stands first and hides older ones. -/
def enter (sections : List (Int × Section)) (b : Block) : List (Int × Section) :=
  match b.kind with
  | .fixed => sections
  | .sectioned sectionId =>
    (sectionId, ((sections.lookup sectionId).getD (.opened b)).add b) :: sections

def sections (t : TrialTable) : List (Int × Section) := t.blocks.foldl enter []

def repeats (sections : List (Int × Section)) (b : Block) : Nat :=
  match b.kind with
  | .fixed => b.repeatCount
  | .sectioned sectionId => ((sections.lookup sectionId).map (·.repeatCount)).getD 1

/-! ### Counting ahead -/

/-- A number as a word of 64 bits. -/
def word (o : Overflow) (n : Nat) : Except Overflow UInt64 :=
  if h : n < UInt64.size then .ok (UInt64.ofNatLT n h) else .error o

def overflowAt (b : Block) : Overflow :=
  match b.kind with
  | .fixed => .fixedBlock
  | .sectioned _ => .sectionBlock

/-- The trials of one pass up to a block, when there were so many before it. -/
def countBlock (sections : List (Int × Section)) (before : UInt64) (b : Block) :
    Except Overflow UInt64 := do
  let shown ← word (overflowAt b) (b.trials.length * repeats sections b)
  word .pass (before.toNat + shown.toNat)

def expectedLength (t : TrialTable) (repetitions : Nat) : Except Overflow UInt64 := do
  let pass ← t.blocks.foldlM (countBlock t.sections) 0
  word .run (pass.toNat * repetitions)

/-- The bytes of an instance in a sequence. -/
def instanceBytes : Nat := 40

/-- How many instances there can be room for: their bytes are counted by a signed word. -/
def mostInstances : Nat := 0x7fffffffffffffff / instanceBytes

/-- The room that is made ahead of the sequence. -/
def capacity (t : TrialTable) (repetitions : Nat) : Except Overflow UInt64 := do
  let n ← t.expectedLength repetitions
  if n.toNat ≤ mostInstances then .ok n else .error .room

/-- What comes before the sequence: the table is checked, and there is room for so many
    instances. -/
def reserve (t : TrialTable) (repetitions : Nat) : Except SequenceFailure UInt64 :=
  match t.sequenceError? repetitions with
  | some e => .error (.refused e)
  | none => (t.capacity repetitions).mapError .stopped

/-! ### Batches -/

def counters (n : Nat) : List Nat := (List.range n).map (· + 1)

/-- Trials that are emitted together under one tag. -/
structure Batch where
  grouping : Grouping
  specs : List TrialSpec
deriving DecidableEq, Repr

/-- Whether a batch is shuffled when sections are. -/
def Batch.isSectioned (b : Batch) : Bool :=
  match b.grouping with
  | .fixed _ => false
  | .sectioned _ _ => true

/-- The batches that the walk emits at a block. -/
def batchesAt (sections : List (Int × Section)) (b : Block) : List Batch :=
  match b.kind with
  | .fixed => (counters b.repeatCount).map fun i => ⟨.fixed i, b.trials⟩
  | .sectioned sectionId =>
    match sections.lookup sectionId with
    | none => []
    | some s =>
      if s.leader ≠ b.number then []
      else
        let specs := s.blocks.flatMap (·.trials)
        (counters s.repeatCount).map fun i => ⟨.sectioned sectionId i, specs⟩

def pass (t : TrialTable) : List Batch :=
  let sections := t.sections
  t.blocks.flatMap (batchesAt sections)

/-- The batches of all passes, each with the number of its pass. -/
def passes (t : TrialTable) (repetitions : Nat) : List (Nat × Batch) :=
  (counters repetitions).flatMap fun r => t.pass.map fun b => (r, b)

/-- The instances of a batch in a pass, not yet counted. -/
def Batch.instances (repetition : Nat) (b : Batch) : List TrialInstance :=
  b.specs.map fun spec => ⟨spec, repetition, b.grouping, 0⟩

/-! ### Emission -/

/-- How a source of chance orders a run of trials; it is given back, as it may be used up. -/
abbrev Shuffle (γ : Type) := List TrialInstance → γ → List TrialInstance × γ

/-- The instances of batches as they are emitted, and the source of chance after them. -/
def emit {γ : Type} (shuffle : Shuffle γ) (randomize : Bool) :
    List (Nat × Batch) → γ → List TrialInstance × γ
  | [], g => ([], g)
  | (repetition, batch) :: rest, g =>
    let run := batch.instances repetition
    let (run, g) := if randomize && batch.isSectioned then shuffle run g else (run, g)
    let (tail, g) := emit shuffle randomize rest g
    (run ++ tail, g)

def numbered (trials : List TrialInstance) : List TrialInstance :=
  trials.mapIdx fun i t => { t with sequencePosition := i }

/-- The sequence of a table, and the source of chance after its shuffles. -/
def compileWith {γ : Type} (shuffle : Shuffle γ) (t : TrialTable) (options : SequenceOptions)
    (g : γ) : Except SequenceFailure (List TrialInstance × γ) :=
  match t.reserve options.repetitions with
  | .error e => .error e
  | .ok _ =>
    let (trials, g) := emit shuffle options.randomizeSections (t.passes options.repetitions) g
    .ok (numbered trials, g)

def compile (t : TrialTable) (options : SequenceOptions) (g : Random.Generator) :
    Except SequenceFailure (List TrialInstance × Random.Generator) :=
  t.compileWith Random.shuffle options g

/-- What compiling reports: each section repetition as it is emitted, and the whole at the
    end. -/
def compileLog (t : TrialTable) (options : SequenceOptions) : Log :=
  match t.reserve options.repetitions with
  | .error _ => []
  | .ok _ =>
    let batches := t.passes options.repetitions
    batches.filterMap (fun p =>
      match p.2.grouping with
      | .fixed _ => none
      | .sectioned sectionId i => some ⟨.debug, "emitted section",
          [("section", .number sectionId), ("section_repetition", .ofNat i),
            ("trials", .ofNat p.2.specs.length)]⟩)
      ++ [⟨.info, "compiled trial sequence",
          [("trials", .ofNat (batches.flatMap (·.2.specs)).length),
            ("repetitions", .ofNat options.repetitions),
            ("randomized", .flag options.randomizeSections)]⟩]

end TrialTable

end TimedTrials
