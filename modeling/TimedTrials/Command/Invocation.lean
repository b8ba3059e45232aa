/-
  TimedTrials/Command/Invocation.lean
  ===================================
  **What the arguments of the program ask for**: a command, a text, or nothing that can be
  understood.

  Flags that every command has may stand before the command or behind it.
-/
import TimedTrials.Command.Help
import TimedTrials.Presenter.Presentation

namespace TimedTrials.Command

inductive Invocation where
  | perform (report : ReportChoice) (command : Command)
  | print (text : String)
  | misuse
deriving DecidableEq, Repr

namespace Invocation

/-- The grammar of what stands before a command. -/
def leading : Grammar :=
  ⟨"peg", "", [], commonOptions ++ [helpFlag, versionFlag]⟩

def versionText : String := s!"peg {programVersion}\n"

/-- What a stop stands for, given the help text at hand. -/
def ofStop (help : String) : Stop → Invocation
  | .misuse => .misuse
  | .help => .print help
  | .version => .print versionText

def ofHelpNames (environment : Environment) : List String → Invocation
  | [] => .print Help.program
  | [name] =>
    match grammar? name with
    | some g => .print (Help.ofGrammar environment g)
    | none => if name = "help" then .print Help.ofHelp else .misuse
  | _ => .misuse

/-- Reads a command and its arguments, behind the flags in `before`. -/
def ofCommand (environment : Environment) (before : Arguments) (name : String)
    (args : List String) : Invocation :=
  match grammar? name with
  | none => if name = "help" then ofHelpNames environment args else .misuse
  | some g =>
    match Arguments.read g.withCommon environment args with
    | .error stop => ofStop (Help.ofGrammar environment g) stop
    | .ok a =>
      match ofArguments? name a with
      | none => .misuse
      | some command =>
        let set (long : String) : Bool := before.has long || a.has long
        .perform ⟨set "verbose", set "json"⟩ command

/-- Reads arguments up to the name of a command, and then that command. -/
def ofArgumentsFrom (environment : Environment) (before : Arguments) : List String → Invocation
  | [] => .misuse
  | arg :: rest =>
    if arg.toList.head? == some '-' && arg.length > 1 then
      match before.take leading arg with
      | .error stop => ofStop Help.program stop
      | .ok a => if a.afterDashes then .misuse else ofArgumentsFrom environment a rest
    else ofCommand environment before arg rest

def ofArguments (environment : Environment) (args : List String) : Invocation :=
  ofArgumentsFrom environment Arguments.nothing args

end Invocation

end TimedTrials.Command
