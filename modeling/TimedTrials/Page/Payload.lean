/-
  TimedTrials/Page/Payload.lean
  =============================
  **What the page is told about an experiment**: its trials as the browser sees them, every
  image to load beforehand, and the settings of the run.

  A payload is plain data. The stimulus of a trial stands in it twice: as authored, for the
  results, and as markup in which each image directive is replaced by an element.
-/
import TimedTrials.Page.Html
import TimedTrials.Run.Basic
import TimedTrials.Stimulus.Directive
import TimedTrials.Stored.Trial

namespace TimedTrials.Page

/-- The settings of a page. The title is shown, the others are part of the payload. -/
structure Settings where
  title : String
  randomized : Bool
  repetitions : Nat
  saveEndpoint : Option String
  defaultFeedbackMs : Nat
  keyGraceMs : Option Nat
  imageBase : String
deriving DecidableEq, Repr

def Settings.standard : Settings :=
  { title := "Experiment"
    randomized := true
    repetitions := 1
    saveEndpoint := none
    defaultFeedbackMs := TimedTrials.feedbackMs
    keyGraceMs := some TimedTrials.keyGraceMs
    imageBase := "images" }

structure Trial where
  source : TrialInstance
  stimulusHtml : String
  position : Position
deriving DecidableEq, Repr

structure Payload where
  trials : List Trial
  preload : List String
  settings : Settings
deriving DecidableEq, Repr

/-! ### Building a payload -/

def segmentHtml (base : String) : Segment → String
  | .markup text => text
  | .image ref => imageTag ref base

def stimulusHtml (base : String) (s : Stimulus) : String :=
  String.join (s.segments.map (segmentHtml base))

def trialOf (base : String) (t : TrialInstance) :
    Except DirectiveError (Trial × List String) := do
  let s ← Stimulus.read t.spec.stimulus
  pure (⟨t, stimulusHtml base s, s.position⟩, s.images.map (imageSource · base))

/-- Puts a text into an ascending list that holds each text once. -/
def insertSource (x : String) : List String → List String
  | [] => [x]
  | y :: ys => if x < y then x :: y :: ys else if x = y then y :: ys else y :: insertSource x ys

/-- The payload of a sequence; the first stimulus that cannot be read makes it fail. -/
def Payload.build (sequence : List TrialInstance) (settings : Settings) :
    Except DirectiveError Payload := do
  let trials ← sequence.mapM (trialOf settings.imageBase)
  let sources := trials.flatMap (·.2)
  pure ⟨trials.map (·.1), sources.foldl (fun xs x => insertSource x xs) [], settings⟩

/-! ### The JSON form -/

/-- A response with its keys in their normal forms. -/
def responseJson : Response → Json
  | .none => .obj [("kind", .str "none")]
  | .keys tokens =>
    .obj [("kind", .str "keys"), ("keys", Json.list Json.str (tokens.map Key.normal))]
  | .text options => .obj (("kind", .str "text") :: options.fields)

def Trial.toJson (t : Trial) : Json :=
  let i := t.source
  .obj ([("sequencePosition", Json.nat i.sequencePosition), ("block", Json.int i.spec.block),
      ("repetition", Json.nat i.repetition)] ++ i.grouping.fields ++
    [("stimulus", .str i.spec.stimulus), ("stimulusHtml", .str t.stimulusHtml),
      ("position", .str t.position.name), ("response", responseJson i.spec.response),
      ("latencyMs", Json.opt Json.nat i.spec.latencyMs),
      ("correctResponse", Json.opt Json.str i.spec.correctResponse),
      ("feedback", Json.opt Feedback.toJson i.spec.feedback),
      ("feedbackDurationMs", Json.opt Json.nat i.spec.feedbackDurationMs),
      ("stimulusColor", .str i.spec.stimulusColor),
      ("backgroundColor", .str i.spec.backgroundColor)])

def Settings.toJson (s : Settings) : Json :=
  .obj [("randomized", .bool s.randomized), ("repetitions", Json.nat s.repetitions),
    ("saveEndpoint", Json.opt Json.str s.saveEndpoint),
    ("defaultFeedbackMs", Json.nat s.defaultFeedbackMs),
    ("keyGraceMs", Json.opt Json.nat s.keyGraceMs), ("imageBase", .str s.imageBase)]

def Payload.toJson (p : Payload) : Json :=
  .obj [("trials", Json.list Trial.toJson p.trials), ("preload", Json.list Json.str p.preload),
    ("settings", p.settings.toJson)]

end TimedTrials.Page
