/-
  TimedTrials/Command/Help.lean
  =============================
  **The help texts of the commands.**

  A help text is the description, the usage, and a section each for commands, arguments and
  options. Entries stand in two columns, and a description with line ends of its own goes on
  in its column. Control sequences in what variables are set to do not reach the terminal.
-/
import TimedTrials.Command.Basic
import TimedTrials.Text.Terminal

namespace TimedTrials.Command.Help

def blanks (n : Nat) : String := "".pushn ' ' n

/-- A text whose lines after the first one are indented. -/
def hanging (indent : Nat) (text : String) : String :=
  ("\n" ++ blanks indent).intercalate (text.splitOn "\n")

/-! ### Entries -/

/-- An entry of a section: what stands at the left, how wide it counts, and its description. -/
structure Entry where
  left : String
  width : Nat
  help : String

def optionName (o : OptionSpec) : String :=
  "--" ++ o.long ++ (o.value.map fun v => " <" ++ v.name ++ ">").getD ""

/-- What is said about the value of an option: its variable, with what it is set to, and its
    default. -/
def valueNotes (environment : Environment) (v : OptionValue) : List String :=
  (v.variableName?.map fun name => "[env: " ++ name ++ "=" ++ (environment name).getD "" ++ "]").toList
    ++ (v.default?.map fun value => "[default: " ++ value ++ "]").toList

def optionEntry (environment : Environment) (o : OptionSpec) : Entry :=
  let notes := (o.value.map (valueNotes environment)).getD []
  let letter := (o.short.map fun c => "-" ++ String.singleton c ++ ", ").getD (blanks 4)
  ⟨blanks 2 ++ letter ++ optionName o, (optionName o).length, " ".intercalate (o.help :: notes)⟩

/-- A section of entries. `margin` is how far the descriptions stay away from the entries' own
    text, counted from their widths. -/
def listing (title : String) (margin : Nat) (entries : List Entry) : String :=
  let longest := (entries.map (·.width)).foldl max 0
  let line (e : Entry) : String :=
    e.left ++ blanks (longest + 2 - e.width) ++ hanging (longest + margin) e.help
  title ++ ":\n" ++ "\n".intercalate (entries.map line)

def nameEntry (name help : String) : Entry := ⟨blanks 2 ++ name, name.length, help⟩

/-! ### Texts -/

/-- What an option is sorted by beside its place: its letter, small before capital, or its long
    name. -/
def sortKey (o : OptionSpec) : String :=
  match o.short with
  | some c => String.ofList [c.toLower, if c.isLower then '0' else '1']
  | none => o.long

/-- Options in the order of a help text: the first ones of each list before the second ones,
    and so on. -/
def sorted (lists : List (List OptionSpec)) : List OptionSpec :=
  let placed := lists.flatMap fun os => os.mapIdx fun i o => (i, o)
  (placed.mergeSort fun a b =>
    decide (a.1 < b.1) || (a.1 == b.1 && decide (sortKey a.2 ≤ sortKey b.2))).map (·.2)

def ofGrammar (environment : Environment) (g : Grammar) : String :=
  let options := sorted [g.options, commonOptions] ++ [helpFlag]
  let positionals := g.positionals.map fun p => ("<" ++ p.name ++ ">", p.help)
  Text.Terminal.plain (g.about ++ "\n\nUsage: peg " ++ g.name ++ " [OPTIONS]"
    ++ String.join (positionals.map fun p => " " ++ p.1)
    ++ "\n\n" ++ listing "Arguments" 4 (positionals.map fun p => nameEntry p.1 p.2)
    ++ "\n\n" ++ listing "Options" 8 (options.map (optionEntry environment)) ++ "\n")

def helpAbout : String := "Print this message or the help of the given subcommand(s)"

def program : String :=
  let commands := grammars.map (fun g => (g.name, g.about)) ++ [("help", helpAbout)]
  let options := sorted [commonOptions] ++ [helpFlag, versionFlag]
  "Psychology experiment generator\n\nUsage: peg [OPTIONS] <COMMAND>\n\n"
    ++ listing "Commands" 4 (commands.map fun c => nameEntry c.1 c.2)
    ++ "\n\n" ++ listing "Options" 8 (options.map (optionEntry fun _ => none)) ++ "\n"

def ofHelp : String :=
  helpAbout ++ "\n\nUsage: peg help [COMMAND]...\n\n"
    ++ listing "Arguments" 4 [nameEntry "[COMMAND]..." "Print help for the subcommand(s)"] ++ "\n"

/-- What is said when the arguments cannot be understood. -/
def misuse : String :=
  "error: the arguments were not understood\n\nFor more information, try '--help'."

end TimedTrials.Command.Help
