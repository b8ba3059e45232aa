/-
  TimedTrials/Result/Artifact.lean
  ================================
  **The artifact of a run**: the document that is written once, at the end.

  A record of the run becomes a result with its time in milliseconds and its instant as
  text. The artifact's identifier is made from the instant at which the run finished and
  four random digits, both in base 36, and is safe as a part of a file name.
-/
import TimedTrials.Clock.Basic
import TimedTrials.Random.Words
import TimedTrials.Stored.Trial

namespace TimedTrials

/-! ### Results -/

/-- An outcome with its response time and its instant in their stored forms. -/
structure TrialResult where
  outcome : Outcome
  responseTimeMs : Float
  timestamp : String

namespace TrialResult

/-- The stored form of a record. -/
def ofRecord (r : TrialRecord) : TrialResult :=
  ⟨r.outcome, Duration.millis r.responseTime, Calendar.iso r.instant⟩

/-- The fields of a result around the response time, which the argument supplies. -/
def fields (r : TrialResult) (responseTime : Json) : List (String × Json) :=
  let o := r.outcome
  [("sequencePosition", Json.nat o.sequencePosition), ("block", Json.int o.block),
    ("repetition", Json.nat o.repetition)] ++ o.grouping.fields ++
  [("stimulus", .str o.stimulus), ("correctResponse", Json.opt Json.str o.correctResponse),
    ("actualResponse", Json.opt Json.str o.actualResponse), ("responseTimeMs", responseTime),
    ("isCorrect", Json.opt Json.bool o.isCorrect), ("timedOut", .bool o.timedOut),
    ("feedbackShown", Json.opt Json.str o.feedbackShown), ("timestamp", .str r.timestamp)]

def toJson (r : TrialResult) : Json := .obj (r.fields (Json.float r.responseTimeMs))

def fieldNames : List String :=
  ["sequencePosition", "block", "repetition", "stimulus", "correctResponse", "actualResponse",
    "responseTimeMs", "isCorrect", "timedOut", "feedbackShown", "timestamp"]

/-- Reads an object that stands in `level` lists and objects; the grouping is among the fields
    that are not the result's own. -/
def ofJson? (level : Nat) : Json → Option TrialResult
  | .obj all => do
    let [position, block, repetition, stimulus, correct, actual, time, right, timedOut, shown,
      timestamp] ← (Json.obj all).record? fieldNames | none
    pure {
      outcome := {
        sequencePosition := ← Json.need Json.nat64? position
        block := ← Json.need Json.int64? block
        repetition := ← Json.need Json.nat32? repetition
        grouping := ← Grouping.ofFields? (level + 1) (all.filter fun f => !fieldNames.contains f.1)
        stimulus := ← Json.need Json.str? stimulus
        correctResponse := ← Json.maybe Json.str? correct
        actualResponse := ← Json.maybe Json.str? actual
        isCorrect := ← Json.maybe Json.bool? right
        timedOut := ← Json.need Json.bool? timedOut
        feedbackShown := ← Json.maybe Json.str? shown }
      responseTimeMs := ← Json.need Json.float? time
      timestamp := ← Json.need Json.str? timestamp }
  | _ => none

end TrialResult

/-! ### Identifiers -/

def idMark : String := "exp_"

def base36Digit (n : Nat) : Char := Char.ofNat (if n < 10 then 48 + n else 87 + n)

def base36 (n : Nat) : List Char :=
  if n < 36 then [base36Digit n] else base36 (n / 36) ++ [base36Digit (n % 36)]

def randomDigits : Nat → Random.Generator → List Char × Random.Generator
  | 0, g => ([], g)
  | n + 1, g =>
    let (d, g) := Random.below 36 g
    let (ds, g) := randomDigits n g
    (base36Digit d :: ds, g)

/-- The identifier of a run that finished at an instant. Instants before 1970 count as its
    start. -/
def newExperimentId (instant : Int) (g : Random.Generator) : String × Random.Generator :=
  let (ds, g) := randomDigits 4 g
  (String.ofList (idMark.toList ++ base36 (Calendar.millisOf instant).toNat ++ ds), g)

/-- An identifier is its mark and then at least one ASCII letter or digit, and nothing else. -/
def isValidExperimentId (id : String) : Bool :=
  match Text.dropHead? idMark.toList id.toList with
  | some rest => !rest.isEmpty && rest.all Char.isAlphanum
  | none => false

def artifactFileName (id : String) : String := "experiment_data_" ++ id ++ ".json"

/-! ### Artifacts -/

/-- What is kept of a run: when it finished and was started, the environment that presented it,
    how its sequence was made, and its results. -/
structure Artifact where
  experimentId : String
  timestamp : String
  startedAt : Option String
  environmentInfo : String
  randomized : Bool
  repetitions : Nat
  trials : List TrialResult

namespace Artifact

/-- The artifact of a run that finished at an instant. -/
def new (finished : Int) (g : Random.Generator) (environment : String) (randomized : Bool)
    (repetitions : Nat) (trials : List TrialResult) : Artifact × Random.Generator :=
  let (experimentId, g) := newExperimentId finished g
  ({ experimentId, randomized, repetitions, trials
     timestamp := Calendar.iso finished
     startedAt := none
     environmentInfo := environment }, g)

def fileName (a : Artifact) : String := artifactFileName a.experimentId

def toJsonWith (result : TrialResult → Json) (a : Artifact) : Json :=
  .obj ([("experimentId", .str a.experimentId), ("timestamp", .str a.timestamp)]
    ++ (match a.startedAt with | some s => [("startedAt", .str s)] | none => [])
    ++ [("environmentInfo", .str a.environmentInfo), ("randomized", .bool a.randomized),
      ("repetitions", Json.nat a.repetitions), ("trials", Json.list result a.trials)])

def toJson (a : Artifact) : Json := a.toJsonWith TrialResult.toJson

def text (a : Artifact) : String := a.toJson.pretty

def ofJson? (v : Json) : Option Artifact := do
  let [experimentId, timestamp, startedAt, environment, randomized, repetitions, trials] ←
    v.record? ["experimentId", "timestamp", "startedAt", "environmentInfo", "randomized",
      "repetitions", "trials"] | none
  pure {
    experimentId := ← Json.need Json.str? experimentId
    timestamp := ← Json.need Json.str? timestamp
    startedAt := ← Json.maybe Json.str? startedAt
    environmentInfo := ← Json.need Json.str? environment
    randomized := ← Json.need Json.bool? randomized
    repetitions := ← Json.need Json.nat32? repetitions
    trials := ← Json.need (Json.list? (TrialResult.ofJson? 2)) trials }

end Artifact

end TimedTrials
