/-
  TimedTrials/Command/Grammar.lean
  ================================
  **What a command line may say.**

  A command has positional arguments and options. An option is written with two dashes, some
  also with one dash and a letter; flags stand alone, and letters of flags may be joined. The
  value of another option follows it, after an equals sign or as the next argument, or right
  behind its letter. Behind two dashes everything is positional. Nothing may be given twice.

  Options that are not given are looked up in the environment and then in their defaults.
  Reading stops at the first mistake or the first request for help, whichever comes first.
-/
import TimedTrials.Number.Integer
import TimedTrials.Text.Search

namespace TimedTrials.Command

/-! ### Grammars -/

/-- What a value has to be: any text, a path, which is not empty, or a 64-bit count. -/
inductive ValueKind where
  | text
  | path
  | count
deriving DecidableEq, Repr

def ValueKind.allows : ValueKind → String → Bool
  | .text, _ => true
  | .path, value => !value.isEmpty
  | .count, value => (Number.readNat? Number.max64 value.toList).isSome

structure Positional where
  name : String
  kind : ValueKind
  help : String
deriving DecidableEq, Repr

/-- The value of an option: its name, its kind, the variable that supplies it when it is not
    given, and what it is otherwise. -/
structure OptionValue where
  name : String
  kind : ValueKind
  variableName? : Option String
  default? : Option String
deriving DecidableEq, Repr

/-- Why reading stops: a mistake, or a request for help or for the version. -/
inductive Stop where
  | misuse
  | help
  | version
deriving DecidableEq, Repr

/-- An option; without a value it is a flag. Some flags stop the reading. -/
structure OptionSpec where
  long : String
  short : Option Char
  value : Option OptionValue
  stop : Option Stop
  help : String
deriving DecidableEq, Repr

structure Grammar where
  name : String
  about : String
  positionals : List Positional
  options : List OptionSpec
deriving DecidableEq, Repr

abbrev Environment := String → Option String

/-! ### Reading arguments -/

/-- The arguments read so far: flags by their long names, values by the long names of their
    options, positional arguments, the option that waits for its value, and whether two
    dashes have been met. -/
structure Arguments where
  flags : List String
  values : List (String × String)
  positionals : List String
  pending : Option (String × OptionValue)
  afterDashes : Bool
deriving DecidableEq, Repr

namespace Arguments

def nothing : Arguments := ⟨[], [], [], none, false⟩

def addFlag (a : Arguments) (spec : OptionSpec) : Except Stop Arguments :=
  match spec.stop with
  | some stop => .error stop
  | none =>
    if a.flags.contains spec.long then .error .misuse
    else .ok { a with flags := spec.long :: a.flags }

/-- Adds the value of an option, which must be new. -/
def addValue (a : Arguments) (long : String) (v : OptionValue) (value : String) :
    Except Stop Arguments :=
  if v.kind.allows value && (a.values.lookup long).isNone then
    .ok { a with values := (long, value) :: a.values, pending := none }
  else .error .misuse

def addPositional (g : Grammar) (a : Arguments) (value : String) : Except Stop Arguments :=
  match g.positionals[a.positionals.length]? with
  | some p =>
    if p.kind.allows value then .ok { a with positionals := a.positionals ++ [value] }
    else .error .misuse
  | none => .error .misuse

/-- The text behind an equals sign at its head, or all of it. -/
def withoutEquals : List Char → List Char
  | '=' :: rest => rest
  | cs => cs

def takeLetters (g : Grammar) (a : Arguments) : List Char → Except Stop Arguments
  | [] => .ok a
  | c :: rest =>
    match g.options.find? (·.short == some c) with
    | none => .error .misuse
    | some spec =>
      match spec.value with
      | none => do takeLetters g (← a.addFlag spec) rest
      | some v =>
        if rest.isEmpty then .ok { a with pending := some (spec.long, v) }
        else a.addValue spec.long v (String.ofList (withoutEquals rest))

/-- Reads the name behind two dashes, and the value behind its equals sign if there is one. -/
def takeName (g : Grammar) (a : Arguments) (cs : List Char) : Except Stop Arguments :=
  let (name, attached) := match Text.cutAt? (· == '=') cs with
    | some (name, _, value) => (String.ofList name, some (String.ofList value))
    | none => (String.ofList cs, none)
  match g.options.find? (·.long == name) with
  | none => .error .misuse
  | some spec =>
    match spec.value, attached with
    | none, none => a.addFlag spec
    | none, some _ => .error .misuse
    | some v, some value => a.addValue spec.long v value
    | some v, none => .ok { a with pending := some (spec.long, v) }

def take (g : Grammar) (a : Arguments) (arg : String) : Except Stop Arguments :=
  if a.afterDashes then a.addPositional g arg
  else
    match arg.toList, a.pending with
    | '-' :: _ :: _, some _ => .error .misuse
    | ['-', '-'], none => .ok { a with afterDashes := true }
    | '-' :: '-' :: name, none => a.takeName g name
    | '-' :: c :: letters, none => a.takeLetters g (c :: letters)
    | _, some (long, v) => a.addValue long v arg
    | _, none => a.addPositional g arg

def complete (environment : Environment) (a : Arguments) (spec : OptionSpec) :
    Except Stop Arguments :=
  match spec.value, a.values.lookup spec.long with
  | some v, none =>
    match v.variableName?.bind environment, v.default? with
    | some value, _ => a.addValue spec.long v value
    | none, some value => .ok { a with values := (spec.long, value) :: a.values }
    | none, none => .ok a
  | _, _ => .ok a

/-- Reads all arguments of a command. Every positional argument is needed. -/
def read (g : Grammar) (environment : Environment) (args : List String) :
    Except Stop Arguments := do
  let a ← args.foldlM (take g) nothing
  if a.pending.isSome then .error .misuse
  else
    let a ← g.options.foldlM (complete environment) a
    if a.positionals.length = g.positionals.length then .ok a else .error .misuse

def has (a : Arguments) (long : String) : Bool := a.flags.contains long

def value? (a : Arguments) (long : String) : Option String := a.values.lookup long

/-- The value of an option, which is there when it has a default. -/
def value (a : Arguments) (long : String) : String := (a.value? long).getD ""

def count? (a : Arguments) (long : String) : Option Nat :=
  (a.value? long).bind fun value => Number.readNat? Number.max64 value.toList

def positional (a : Arguments) (i : Nat) : String := a.positionals.getD i ""

end Arguments

end TimedTrials.Command
