/-
  TimedTrials/Command/Basic.lean
  ==============================
  **The commands and how they are written.**
-/
import TimedTrials.Command.Grammar
import TimedTrials.Run.Basic
import TimedTrials.Table.Validation

namespace TimedTrials

/-- Which table, how often its sequence is repeated, and where its images are. -/
structure TableChoice where
  table : String
  repetitions : String
  images : String
deriving DecidableEq, Repr

/-- How a sequence is made and run, and where results go. -/
structure RunChoice where
  noRandomize : Bool
  seed : Option Nat
  saveEndpoint : Option String
  out : String
  feedbackMs : Nat
  keepKeysOpen : Bool
deriving DecidableEq, Repr

inductive Command where
  | validate (table : TableChoice)
  | compile (table : TableChoice) (run : RunChoice) (title : String) (browse : Bool)
  | run (table : TableChoice) (run : RunChoice) (console : Bool) (font : Option String)
  | sequence (table : TableChoice) (run : RunChoice)
  | convert (input output : String)
deriving DecidableEq, Repr

/-- How much is reported and in which form. -/
structure ReportChoice where
  verbose : Bool
  json : Bool
deriving DecidableEq, Repr

/-- Whether a report is shown: debug detail only when it is asked for. -/
def ReportChoice.shows (r : ReportChoice) (e : LogEntry) : Bool :=
  r.verbose || e.level != .debug

namespace Command

/-! ### Grammars -/

def flag (long : String) (short : Option Char) (help : String) : OptionSpec :=
  ⟨long, short, none, none, help⟩

def option (long : String) (short : Option Char) (name : String) (kind : ValueKind)
    (variableName? default? : Option String) (help : String) : OptionSpec :=
  ⟨long, short, some ⟨name, kind, variableName?, default?⟩, none, help⟩

def commonOptions : List OptionSpec := [
  flag "verbose" (some 'v') "Log debug detail",
  flag "json" none "Log as JSON lines"]

def helpFlag : OptionSpec := ⟨"help", some 'h', none, some .help, "Print help"⟩

def versionFlag : OptionSpec := ⟨"version", some 'V', none, some .version, "Print version"⟩

def tableArgument : Positional := ⟨"TABLE", .path, "Authored trial table (CSV)"⟩

def tableOptions : List OptionSpec := [
  option "repeat" (some 'r') "REPEAT" .text none (some "1")
    "Times the whole sequence is repeated",
  option "images" none "IMAGES" .path (some "PEG_IMAGE_DIR") (some defaultImageDir)
    "Directory stimulus images are loaded from"]

def runOptions : List OptionSpec := [
  flag "no-randomize" none "Keep sections in authored order",
  option "seed" none "SEED" .count none none "Seed for reproducible section shuffles",
  option "save-endpoint" none "SAVE_ENDPOINT" .text (some "PEG_SAVE_ENDPOINT") none
    "POST results here first; saved locally if that fails",
  option "out" (some 'o') "OUT" .path (some "PEG_OUTPUT_DIR") (some ".")
    "Where experiment.html and result files are written",
  option "feedback-ms" none "FEEDBACK_MS" .count none (some "1000")
    "Feedback duration for rows that leave it empty, in milliseconds",
  flag "keep-keys-open" none
    ("Accept keys until the timeout on trials that also time out, instead of only during the "
      ++ "first 50 ms after onset")]

/-- The grammar of each command, in the order in which they are listed. -/
def grammars : List Grammar := [
  ⟨"validate", "Validate a trial table and report every problem", [tableArgument], tableOptions⟩,
  ⟨"compile", "Compile a trial table into experiment.html", [tableArgument],
    tableOptions ++ runOptions ++ [
      option "title" none "TITLE" .text none (some "Experiment") "Page title",
      flag "open" none "Open the page in the default browser"]⟩,
  ⟨"run", "Present the experiment on this machine", [tableArgument],
    tableOptions ++ runOptions ++ [
      flag "console" none "Use the terminal instead of a fullscreen window",
      option "font" none "FONT" .path none none
        "TrueType font for the window (defaults to a system font)"]⟩,
  ⟨"sequence", "Print one compiled sequence as JSON", [tableArgument],
    tableOptions ++ runOptions⟩,
  ⟨"convert", "Rewrite a table file in the current column format",
    [⟨"INPUT", .path, ""⟩, ⟨"OUTPUT", .path, ""⟩], []⟩]

def grammar? (name : String) : Option Grammar := grammars.find? (·.name == name)

def Grammar.withCommon (g : Grammar) : Grammar :=
  { g with options := g.options ++ commonOptions ++ [helpFlag] }

/-! ### Commands from arguments -/

def tableChoice (a : Arguments) : TableChoice :=
  ⟨a.positional 0, a.value "repeat", a.value "images"⟩

def runChoice (a : Arguments) : RunChoice :=
  { noRandomize := a.has "no-randomize"
    seed := a.count? "seed"
    saveEndpoint := a.value? "save-endpoint"
    out := a.value "out"
    feedbackMs := (a.count? "feedback-ms").getD TimedTrials.feedbackMs
    keepKeysOpen := a.has "keep-keys-open" }

def ofArguments? (name : String) (a : Arguments) : Option Command :=
  match name with
  | "validate" => some (.validate (tableChoice a))
  | "compile" => some (.compile (tableChoice a) (runChoice a) (a.value "title") (a.has "open"))
  | "run" => some (.run (tableChoice a) (runChoice a) (a.has "console") (a.value? "font"))
  | "sequence" => some (.sequence (tableChoice a) (runChoice a))
  | "convert" => some (.convert (a.positional 0) (a.positional 1))
  | _ => none

end Command

end TimedTrials
