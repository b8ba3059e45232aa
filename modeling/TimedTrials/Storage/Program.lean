/-
  TimedTrials/Storage/Program.lean
  ================================
  **Starting a program by its name**, which is looked for along a list of directories.

  A file can be started when it may be executed and is a binary program, or a script whose first
  line names an interpreter that can be started. A search goes on where nothing is found or a
  file may not be executed, and stops at any other failure.
-/
import TimedTrials.Storage.Tree

namespace TimedTrials.Storage

/-! ### Files that can be started -/

/-- How many bytes of a file tell how it is started. A shorter file counts as if zeros
    followed. -/
def headBytes : Nat := 256

def headOf (content : ByteArray) : List UInt8 :=
  (content.toList ++ List.replicate headBytes 0).take headBytes

/-- The first bytes of a binary program. -/
def binaryMark : List UInt8 := 0x7f :: "ELF".toUTF8.toList

/-- Where a binary file says what it is for. -/
def binaryKindAt : Nat := 16

def isBinary (head : List UInt8) : Bool :=
  binaryMark.isPrefixOf head
    && (head[binaryKindAt]? == some 2 || head[binaryKindAt]? == some 3)

def isLineBlank (b : UInt8) : Bool := b == 0x20 || b == 0x09

def endsName (b : UInt8) : Bool := isLineBlank b || b == 0

/-- The name of the interpreter in what follows the mark of a script. The line ends with its line
    break; one that goes on past the first bytes of the file has to have something after the
    name, which could be cut off otherwise. -/
def interpreterName? (rest : List UInt8) : Option (List UInt8) :=
  let line := rest.takeWhile fun b => b != 0x0a && b != 0
  let name := rest.dropWhile isLineBlank
  if rest[line.length]? == some 0x0a then
    let named := line.dropWhile isLineBlank
    if named.isEmpty then none else some (named.takeWhile (!endsName ·))
  else if name.any endsName then some (name.takeWhile (!endsName ·))
  else none

/-- How a file is started: by itself, or by an interpreter. -/
inductive Start where
  | binary
  | script (interpreter : String)
deriving DecidableEq, Repr

/-- How a file with some first bytes is started. -/
def Start.of? (head : List UInt8) : Option Start :=
  if isBinary head then some .binary
  else if head.take 2 = "#!".toUTF8.toList then
    (interpreterName? (head.drop 2)).bind fun name =>
      (String.fromUTF8? ⟨name.toArray⟩).map .script
  else none

def maxScripts : Nat := 5

/-- The file to execute at a path. An empty path is the working directory. -/
def executable (s : Storage) (path : String) : Except StorageError ByteArray := do
  if path.isEmpty then .error .notPermitted
  match ← s.find path with
  | (_, .file content true) => .ok content
  | _ => .error .notPermitted

/-- Whether a file can be started that so many scripts may lead on from. -/
def startFile (s : Storage) : Nat → ByteArray → Except StorageError Unit
  | scripts, content =>
    match Start.of? (headOf content), scripts with
    | none, _ => .error .notExecutable
    | some .binary, _ => .ok ()
    | some (.script interpreter), 0 => do
      let _ ← s.executable interpreter
      .error .tooManyLevels
    | some (.script interpreter), scripts + 1 => do
      s.startFile scripts (← s.executable interpreter)

def startable (s : Storage) (path : String) : Except StorageError Unit := do
  s.startFile maxScripts (← s.executable path)

/-! ### Looking for a program -/

/-- The list of directories as it is written: with colons between them. -/
def searchList (directories : String) : List String := directories.splitOn ":"

/-- The paths at which a program is looked for. A directory whose path is too long for any path
    is not tried; what comes after its colon counts as another, empty directory, and there is
    nothing after the last one. -/
def candidates (name : String) : List String → List String
  | [] => []
  | dir :: rest =>
    if pathByteLimit ≤ dir.utf8ByteSize then
      match rest with
      | [] => []
      | _ :: _ => name :: candidates name rest
    else Path.join dir name :: candidates name rest

/-- Whether the search for a program goes on after a failure. -/
def searchGoesOn : StorageError → Bool
  | .missing | .notDirectory | .notPermitted => true
  | _ => false

/-- Tries paths one after the other. When all of them fail, a path that may not be executed
    counts most, and then the last failure; `last` is the one before. -/
def startAlong (s : Storage) (refused : Bool) (last : StorageError) :
    List String → Except StorageError Unit
  | [] => .error (if refused then .notPermitted else last)
  | path :: rest =>
    match s.startable path with
    | .ok () => .ok ()
    | .error e =>
      if searchGoesOn e then startAlong s (refused || e == .notPermitted) e rest
      else .error e

/-- Starts a program that is looked for in a list of directories, or tells why it cannot be
    started. `before` is the failure where there is nothing to try. -/
def startFrom (s : Storage) (before : StorageError) (directories : List String) (name : String) :
    Except StorageError Unit :=
  s.startAlong false before (candidates name directories)

end TimedTrials.Storage
