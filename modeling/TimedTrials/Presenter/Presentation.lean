/-
  TimedTrials/Presenter/Presentation.lean
  =======================================
  **A sequence that is ready to be presented**, and what becomes of its results.

  Every presenter hands the records of a finished run over in the same way: they become an
  artifact, the artifact goes to the server or into the output directory, and the participant
  is told so.
-/
import TimedTrials.Config
import TimedTrials.Failure
import TimedTrials.Result.Delivery

namespace TimedTrials

structure Presentation where
  trials : List TrialInstance
  config : RunConfig
  saveEndpoint : Option String
  outDir : String

def programVersion : String := "0.1.0"

/-- What is recorded about the program and the platform, with the name of the presenter. -/
def environmentText (presenter : String) : String :=
  s!"peg {programVersion} ({presenter}; linux x86_64)"

namespace Delivery

/-- The closing words of a run, with a notice where there is one. -/
def completionMessage (d : Delivery) : String :=
  "Experiment complete. Thank you!" ++ (d.notice?.map ("\n\n" ++ ·)).getD ""

def optionText : Option String → String
  | none => "None"
  | some text => "Some(" ++ Text.quote text ++ ")"

def reportText : Delivery → String
  | .remote endpoint => "Remote \x7b endpoint: " ++ Text.quote endpoint ++ " \x7d"
  | .saved path notice =>
    "Local \x7b path: " ++ Text.quotePath path ++ ", notice: " ++ optionText notice ++ " \x7d"

end Delivery

def DeliveryError.failure (e : DeliveryError) : Failure :=
  match e with
  | .write _ cause => ⟨e.message, [cause.message]⟩
  | _ => .plain e.message

/-- What saving brought, with the files and the generator after it and what was reported. -/
structure Saved where
  outcome : Except Failure Delivery
  storage : Storage
  generator : Random.Generator
  log : Log

namespace Presentation

def newRun (p : Presentation) : Run := Run.new p.trials p.config.runSettings

/-- Hands over the records of a run that finished at an instant. -/
def save (p : Presentation) (s : Storage) (g : Random.Generator) (environment : String)
    (finishedAt : Int) (startedAt : Option Int) (records : List TrialRecord) : Saved :=
  let (artifact, g) := Artifact.new finishedAt g environment p.config.randomizeSections
    p.config.repetitions (records.map TrialResult.ofRecord)
  let artifact := { artifact with startedAt := startedAt.map Calendar.iso }
  let delivered := artifact.deliver s (p.saveEndpoint.map Remote.unreachable) p.outDir
  let id := artifact.experimentId
  match delivered.outcome with
  | .error e =>
    ⟨.error (e.failure.during s!"failed to save results of {id}"), delivered.storage, g,
      delivered.log⟩
  | .ok delivery =>
    ⟨.ok delivery, delivered.storage, g, delivered.log ++ [⟨.info, "run saved",
      [("experiment_id", .text id), ("delivery", .text delivery.reportText)]⟩]⟩

end Presentation

end TimedTrials
