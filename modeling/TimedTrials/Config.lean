/-
  TimedTrials/Config.lean
  =======================
  **The configuration of a run**: repetitions, shuffling and its seed, times, and the image
  directory.
-/
import TimedTrials.Json.Printer
import TimedTrials.Json.Record
import TimedTrials.Random.Stream
import TimedTrials.Run.Basic
import TimedTrials.Sequence
import TimedTrials.Storage.Path
import TimedTrials.Table.Validation

namespace TimedTrials

/-- How a run is to be done. Without a seed, shuffles differ from run to run; without a key
    grace, keys are taken until the timeout. -/
structure RunConfig where
  repetitions : Nat
  randomizeSections : Bool
  seed : Option Nat
  defaultFeedbackMs : Nat
  keyGraceMs : Option Nat
  imageDir : String
deriving DecidableEq, Repr

namespace RunConfig

def standard : RunConfig :=
  { repetitions := 1
    randomizeSections := true
    seed := none
    defaultFeedbackMs := feedbackMs
    keyGraceMs := some TimedTrials.keyGraceMs
    imageDir := defaultImageDir }

def isStandard (c : RunConfig) : Bool :=
  Path.alike c.imageDir standard.imageDir && { c with imageDir := standard.imageDir } == standard

def generator? (c : RunConfig) : Option Random.Generator := c.seed.map Random.Generator.ofSeed

def sequenceOptions (c : RunConfig) : SequenceOptions := ⟨c.repetitions, c.randomizeSections⟩

def runSettings (c : RunConfig) : RunSettings :=
  RunSettings.ofMillis c.defaultFeedbackMs c.keyGraceMs

def toJson (c : RunConfig) : Json :=
  .obj [("repetitions", Json.nat c.repetitions), ("randomizeSections", .bool c.randomizeSections),
    ("seed", Json.opt Json.nat c.seed), ("defaultFeedbackMs", Json.nat c.defaultFeedbackMs),
    ("keyGraceMs", Json.opt Json.nat c.keyGraceMs), ("imageDir", .str c.imageDir)]

def ofJson? (v : Json) : Option RunConfig := do
  let [repetitions, randomize, seed, feedback, grace, imageDir] ←
    v.record? ["repetitions", "randomizeSections", "seed", "defaultFeedbackMs", "keyGraceMs",
      "imageDir"] | none
  pure {
    repetitions := ← Json.need Json.nat32? repetitions
    randomizeSections := ← Json.need Json.bool? randomize
    seed := ← Json.maybe Json.nat64? seed
    defaultFeedbackMs := ← Json.need Json.nat64? feedback
    keyGraceMs := ← Json.maybe Json.nat64? grace
    imageDir := ← Json.need Json.str? imageDir }

end RunConfig

end TimedTrials
