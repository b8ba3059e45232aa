/-
  TimedTrials/Command/Perform.lean
  ================================
  **What the commands do.**

  A command works on a tree of files and gives back the tree after it, the lines it prints, its
  reports, and its exit code. Problems with a table are reported one by one before the command
  fails, and a sequence that is too long to be counted stops it. All that is done up to presenting a sequence in the terminal is done by `begin`, so
  that a terminal can be watched while the sequence runs.
-/
import TimedTrials.Command.Basic
import TimedTrials.Failure
import TimedTrials.Page.Document
import TimedTrials.Picture.Font
import TimedTrials.Presenter.Console
import TimedTrials.Storage.Program
import TimedTrials.Table.File
import TimedTrials.Table.Validation

namespace TimedTrials

/-- What a command finds when it begins: the files, the environment, the clock, a generator for
    what is not seeded, how fonts are decoded, and the number of the thread that it runs on. -/
structure Surroundings where
  storage : Storage
  environment : Command.Environment
  clock : Clock
  generator : Random.Generator
  decodeFont : ByteArray → Option Font
  thread : Nat

inductive Report where
  | line (text : String)
  | entry (e : LogEntry)

structure Performed where
  printed : List String
  reports : List Report
  storage : Storage
  exitCode : Nat

namespace Performed

def success (s : Storage) (log : Log) (printed : List String) : Performed :=
  ⟨printed, log.map .entry, s, 0⟩

/-- A command that failed, with its failure as the last line. -/
def failed (s : Storage) (reports : List Report) (printed : List String) (f : Failure) : Performed :=
  ⟨printed, reports ++ [.line ("Error: " ++ f.text)], s, 1⟩

/-- What is told of an overflow on a thread, line by line. -/
def overflowLines (thread : Nat) (o : Overflow) : List String :=
  ["", s!"thread 'main' ({thread}) panicked at {o.place}:", o.message,
    "note: run with \x60RUST_BACKTRACE=1\x60 environment variable to display a backtrace"]

/-- A command that an overflow has stopped before it printed or wrote anything. -/
def stopped (s : Storage) (thread : Nat) (reports : List Report) (o : Overflow) : Performed :=
  ⟨[], reports ++ (overflowLines thread o).map .line, s, 101⟩

end Performed

namespace Command

/-! ### Preparing a table -/

def tableAccessFailure (e : StorageError) : Failure :=
  match e with
  | .isDirectory => ⟨"malformed CSV: " ++ e.message, [e.message]⟩
  | _ => ⟨"table I/O failed: " ++ e.message, [e.message]⟩

def readTable (s : Storage) (path : String) : Log × Except Failure TableFile :=
  match s.read path with
  | .error e => ([], .error ((tableAccessFailure e).during s!"failed to read {path}"))
  | .ok content =>
    let bytes := content.toList
    (TableFile.readLog bytes, match TableFile.read bytes with
      | .error e => .error ((Failure.plain e.message).during s!"failed to read {path}")
      | .ok file => .ok file)

/-- A table that passed all checks, with the configuration of its run. -/
structure Prepared where
  table : TrialTable
  config : RunConfig
  log : Log

/-- The configuration that the choices stand for. -/
def configOf (t : TableChoice) (repetitions : Nat) (run : Option RunChoice) : RunConfig :=
  let config := { RunConfig.standard with repetitions := repetitions, imageDir := t.images }
  match run with
  | none => config
  | some r =>
    { config with
      randomizeSections := !r.noRandomize
      seed := r.seed
      defaultFeedbackMs := r.feedbackMs
      keyGraceMs := if r.keepKeysOpen then none else config.keyGraceMs }

def versionLog (file : TableFile) : Log :=
  if file.version = FormatVersion.current then []
  else [⟨.warn, "table uses an older column format; \x60peg convert\x60 upgrades it",
    [("version", .text file.version.name)]⟩]

/-- Reads and checks a table, or fails after reporting every problem: first of the repeat count,
    then of the rows. -/
def prepare (s : Storage) (t : TableChoice) (run : Option RunChoice) :
    Except (List Report × Failure) Prepared :=
  let (log, file) := readTable s t.table
  match file with
  | .error f => .error (log.map .entry, f)
  | .ok file =>
    let options : ValidationOptions := ⟨t.images, true, s.isFile⟩
    let log := log ++ versionLog file ++ Validation.log options file.rows
    match readRepetitions t.repetitions, TimedTrials.validate options file.rows with
    | .ok repetitions, .ok table => .ok ⟨table, configOf t repetitions run, log⟩
    | repetitions, table =>
      let problems := (match repetitions with | .error p => [p] | .ok _ => [])
        ++ (match table with | .error ps => ps | .ok _ => [])
      .error (log.map .entry ++ problems.map fun p => .line p.message,
        .plain s!"{problems.length} validation error(s) in {t.table}")

def sequenceOf (p : Prepared) (g : Random.Generator) :
    Log × Except SequenceFailure (List TrialInstance × Random.Generator) :=
  let options := p.config.sequenceOptions
  (p.log ++ p.table.compileLog options,
    (p.table.compile options (p.config.generator?.getD g)).map fun (trials, _) => (trials, g))

/-! ### Pages -/

/-- The image directory as a page in the output directory refers to it: relative to it when
    both exist, and otherwise as it was given, always with slashes. -/
def imageBase (s : Storage) (images out : String) : String :=
  let base := match s.resolve? images, s.resolve? out with
    | some target, some base => "/".intercalate (Path.relative target base)
    | _, _ => images
  String.ofList (base.toList.map fun c => if c = '\\' then '/' else c)

def pageSettings (s : Storage) (config : RunConfig) (run : RunChoice) (title : String) :
    Page.Settings :=
  { title
    randomized := config.randomizeSections
    repetitions := config.repetitions
    saveEndpoint := run.saveEndpoint
    defaultFeedbackMs := config.defaultFeedbackMs
    keyGraceMs := config.keyGraceMs
    imageBase := imageBase s config.imageDir run.out }

def browserProgram : String := "xdg-open"

def programDirectories (environment : Environment) : List String :=
  Storage.searchList ((environment "PATH").getD "/bin:/usr/bin")

/-- What opening a page fails with when there is no directory to try: the failure that the page's
    own directory met with, which was there already or had to be made. -/
def lastFailure (s : Storage) (out : String) : StorageError :=
  if s.isDirectory out then .alreadyExists else .missing

/-- Writes the page of a sequence and opens it if that is asked for. -/
def writePage (around : Surroundings) (log : Log) (payload : Page.Payload) (out : String)
    (browse : Bool) : Performed :=
  let (path, written) := Page.write around.storage out payload
  match written with
  | .error e => .failed around.storage (log.map .entry) [] ⟨s!"{path}: {e.message}", [e.message]⟩
  | .ok s =>
    let log := log ++ Page.writeLog path payload
    if browse then
      match s.startFrom (lastFailure around.storage out) (programDirectories around.environment)
          browserProgram with
      | .error e => .failed s (log.map .entry) [path]
          ⟨s!"failed to open {path} in a browser", [e.message]⟩
      | .ok () => .success s log [path]
    else .success s log [path]

/-- The variables of the environment that matter: those that options are looked up in, and the
    directories of programs. -/
def environmentNames : List String :=
  (grammars.flatMap fun g => g.options.filterMap fun o => o.value.bind (·.variableName?))
    ++ ["PATH"]

/-! ### Presenting -/

def fontFailure (e : Font.FontError) : Failure :=
  match e with
  | .unreadable _ cause => ⟨e.message, [cause.message]⟩
  | .unusable _ => .plain e.message

/-- Presents a sequence in a window. The font is looked for first; there is no display here
    that a window could be opened on. -/
def presentWindow (around : Surroundings) (font : Option String) : Failure :=
  match font.or (Font.findSystemFont? around.storage) with
  | none => .plain "no usable system font found; pass one with --font"
  | some path =>
    match Font.load around.decodeFont around.storage path with
    | .error e => fontFailure e
    | .ok _ => .plain "no display to open a window on"

/-! ### Sequences -/

structure Sequenced where
  log : Log
  config : RunConfig
  trials : List TrialInstance
  generator : Random.Generator

/-- The sequence of a table, or how the command failed on the way to it. -/
def sequenced (around : Surroundings) (t : TableChoice) (r : RunChoice) :
    Except Performed Sequenced :=
  match prepare around.storage t (some r) with
  | .error (reports, f) => .error (.failed around.storage reports [] f)
  | .ok prepared =>
    let (log, compiled) := sequenceOf prepared around.generator
    match compiled with
    | .error (.refused e) => .error (.failed around.storage (log.map .entry) [] (.plain e.message))
    | .error (.stopped o) => .error (.stopped around.storage around.thread (log.map .entry) o)
    | .ok (trials, g) => .ok ⟨log, prepared.config, trials, g⟩

/-! ### Commands -/

/-- The line that sums a table up, with the number of trials that one run shows. -/
def summaryLine (path : String) (t : TrialTable) (perRun : Nat) : String :=
  s!"{path}: {t.blocks.length} blocks, {t.trialCount} trials, {perRun} trials per run"

def performValidate (around : Surroundings) (t : TableChoice) : Performed :=
  match prepare around.storage t none with
  | .error (reports, f) => .failed around.storage reports [] f
  | .ok p =>
    match p.table.expectedLength p.config.repetitions with
    | .error o => .stopped around.storage around.thread (p.log.map .entry) o
    | .ok perRun => .success around.storage p.log [summaryLine t.table p.table perRun.toNat]

def performCompile (around : Surroundings) (q : Sequenced) (r : RunChoice) (title : String)
    (browse : Bool) : Performed :=
  match Page.Payload.build q.trials (pageSettings around.storage q.config r title) with
  | .error e => .failed around.storage (q.log.map .entry) []
      ((Failure.plain e.message).during "failed to build the experiment page")
  | .ok payload => writePage around q.log payload r.out browse

def performConvert (s : Storage) (input output : String) : Performed :=
  let (log, file) := readTable s input
  match file with
  | .error f => .failed s (log.map .entry) [] f
  | .ok file =>
    match s.write output ⟨(TableFile.writeBytes file.rows).toArray⟩ with
    | .error e =>
      .failed s (log.map .entry) [] (Failure.during s!"failed to write {output}"
        ⟨"table I/O failed: " ++ e.message, [e.message]⟩)
    | .ok s => .success s (log ++ [⟨.info, "table converted",
        [("from", .text file.version.name), ("to", .text FormatVersion.current.name),
          ("rows", .ofNat file.rows.length)]⟩]) []

/-- How far a command has come: it is done, or a sequence is to be presented in the terminal. -/
inductive Progress where
  | done (p : Performed)
  | present (log : Log) (p : Presentation) (g : Random.Generator)

/-- Does what a command asks for up to presenting a sequence in the terminal. -/
def begin (around : Surroundings) : Command → Progress
  | .validate t => .done (performValidate around t)
  | .convert input output => .done (performConvert around.storage input output)
  | .sequence t r =>
    match sequenced around t r with
    | .error p => .done p
    | .ok q =>
      .done (.success around.storage q.log [(Json.list TrialInstance.toJson q.trials).pretty])
  | .compile t r title browse =>
    match sequenced around t r with
    | .error p => .done p
    | .ok q => .done (performCompile around q r title browse)
  | .run t r console font =>
    match sequenced around t r with
    | .error p => .done p
    | .ok q =>
      if console then .present q.log ⟨q.trials, q.config, r.saveEndpoint, r.out⟩ q.generator
      else .done (.failed around.storage (q.log.map .entry) [] (presentWindow around font))

/-- A command whose sequence has been presented in the terminal, with the reports up to then. -/
def presented (log : Log) (shown : Console.Presented) : Performed :=
  let log := log ++ shown.log
  match shown.failure with
  | some f => .failed shown.storage (log.map .entry) shown.printed f
  | none => .success shown.storage log shown.printed

/-- Does what a command asks for, given the lines that will be typed. -/
def perform (around : Surroundings) (lines : List (Nat × String)) (c : Command) : Performed :=
  match begin around c with
  | .done p => p
  | .present log p g => presented log (Console.run p around.storage g around.clock lines)

end Command

end TimedTrials
