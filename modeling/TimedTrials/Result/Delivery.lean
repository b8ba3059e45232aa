/-
  TimedTrials/Result/Delivery.lean
  ================================
  **Handing over an artifact**, so that every run leaves exactly one.

  An artifact can be sent to a server or written into a directory. With a fallback the server
  is tried first; when that fails the artifact is written to the directory, and a notice
  tells the participant why and where. What the disk does is a parameter; the presenters hand
  over to the plain one.
-/
import TimedTrials.Log
import TimedTrials.Result.Artifact
import TimedTrials.Endpoint.Reach
import TimedTrials.Storage.Disk
import TimedTrials.Text.Quoted

namespace TimedTrials

inductive DeliveryError where
  | write (path : String) (cause : StorageError)
  | serialize (cause : String)
  | transport (endpoint cause : String)
  | rejected (endpoint : String) (status : Nat) (message : String)
  | invalidId (id : String)
deriving DecidableEq, Repr

def DeliveryError.message : DeliveryError → String
  | .write path cause => s!"failed to write {path}: {cause.message}"
  | .serialize cause => s!"failed to serialize results: {cause}"
  | .transport endpoint cause => s!"could not reach {endpoint}: {cause}"
  | .rejected endpoint status message => s!"{endpoint} answered {status}: {message}"
  | .invalidId id => "invalid experiment id " ++ Text.quote id

/-- Where an artifact ended up. The notice is there when this was not the first choice. -/
inductive Delivery where
  | remote (endpoint : String)
  | saved (path : String) (notice : Option String)
deriving DecidableEq, Repr

def Delivery.notice? : Delivery → Option String
  | .remote _ => none
  | .saved _ notice => notice

/-- A server: the answer it gives to an artifact. -/
abbrev Remote := Artifact → Except DeliveryError Delivery

def Remote.unreachable (endpoint : String) : Remote := fun _ =>
  .error (.transport endpoint (Endpoint.failure endpoint))

/-- An outcome with the tree of files after it and what was reported. -/
structure Delivered where
  outcome : Except DeliveryError Delivery
  storage : Storage
  log : Log

namespace Artifact

/-- Writes the artifact into a directory, which is made if it is missing. Nothing is touched
    when the identifier could not be a part of a file name. -/
def saveOn (disk : Disk) (s : Storage) (dir : String) (a : Artifact) : Delivered :=
  if !isValidExperimentId a.experimentId then ⟨.error (.invalidId a.experimentId), s, []⟩
  else
    let path := Path.join dir a.fileName
    match disk.makeDirectories s dir with
    | (.error e, after) => ⟨.error (.write path e), after, []⟩
    | (.ok (), made) =>
      match disk.write made path a.text.toUTF8 with
      | (.error e, after) => ⟨.error (.write path e), after, []⟩
      | (.ok (), written) => ⟨.ok (.saved path none), written,
          [⟨.info, "results saved", [("path", .text path), ("trials", .ofNat a.trials.length)]⟩]⟩

def save (s : Storage) (dir : String) (a : Artifact) : Delivered := a.saveOn .plain s dir

/-- The notice after a failure of the server. -/
def fallbackNotice (e : DeliveryError) (path : String) : String :=
  s!"Could not save results to the server ({e.message}). They were saved to {path} instead."

/-- Hands the artifact to the server, if there is one, and otherwise or when that fails writes
    it into the directory. -/
def deliverOn (disk : Disk) (s : Storage) (remote : Option Remote) (dir : String) (a : Artifact) :
    Delivered :=
  match remote with
  | none => a.saveOn disk s dir
  | some send =>
    match send a with
    | .ok delivery => ⟨.ok delivery, s, []⟩
    | .error e =>
      let saved := a.saveOn disk s dir
      let log := ⟨.warn, "remote save failed, saving locally", [("error", .text e.message)]⟩
        :: saved.log
      match saved.outcome with
      | .ok (.saved path _) => ⟨.ok (.saved path (some (fallbackNotice e path))), saved.storage, log⟩
      | outcome => ⟨outcome, saved.storage, log⟩

def deliver (s : Storage) (remote : Option Remote) (dir : String) (a : Artifact) : Delivered :=
  a.deliverOn .plain s remote dir

end Artifact

end TimedTrials
