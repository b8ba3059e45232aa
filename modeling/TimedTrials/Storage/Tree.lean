/-
  TimedTrials/Storage/Tree.lean
  =============================
  **A tree of files and directories as a value.**

  Commands read and write files, and validation asks whether an image is there. All of that
  works on a tree that is passed along: a list of nodes by their absolute components, newest
  first, and a working directory that relative paths start from. The root is always there.

  A path is followed name by name: what a name is looked for in has to be a directory, `.` stays
  there, `..` goes to its parent, and the root is its own parent.
-/
import TimedTrials.Storage.Path

namespace TimedTrials

inductive StorageError where
  | missing
  | alreadyExists
  | notDirectory
  | isDirectory
  | nameTooLong
  | nulCharacter
  | notPermitted
  | notExecutable
  | tooManyLevels
  | other (words : String)
deriving DecidableEq, Repr

/-- The error in the words of the operating system, with its number. -/
def StorageError.message : StorageError → String
  | .missing => "No such file or directory (os error 2)"
  | .alreadyExists => "File exists (os error 17)"
  | .notDirectory => "Not a directory (os error 20)"
  | .isDirectory => "Is a directory (os error 21)"
  | .nameTooLong => "File name too long (os error 36)"
  | .nulCharacter => "file name contained an unexpected NUL byte"
  | .notPermitted => "Permission denied (os error 13)"
  | .notExecutable => "Exec format error (os error 8)"
  | .tooManyLevels => "Too many levels of symbolic links (os error 40)"
  | .other words => words

inductive Node where
  | file (content : ByteArray) (executable : Bool)
  | directory

/-- Nodes by absolute components, newest first, and the working directory. -/
structure Storage where
  nodes : List (List String × Node)
  workDir : List String

namespace Storage

def empty (workDir : List String) : Storage :=
  ⟨(List.range workDir.length).map fun n => (workDir.take (n + 1), .directory), workDir⟩

def nodeAt? (s : Storage) (place : List String) : Option Node :=
  if place.isEmpty then some .directory else s.nodes.lookup place

/-! ### Following paths -/

def maxNameBytes : Nat := 255

/-- The length from which on a path is too long, in bytes. -/
def pathByteLimit : Nat := 4096

def checkPath (path : String) : Except StorageError Unit :=
  if path.toList.any fun c => c.toNat == 0 then .error .nulCharacter
  else if path.isEmpty then .error .missing
  else if pathByteLimit ≤ path.utf8ByteSize then .error .nameTooLong
  else .ok ()

/-- Whether a place can be gone through. -/
def checkDirectory (s : Storage) (place : List String) : Except StorageError Unit :=
  match s.nodeAt? place with
  | some .directory => .ok ()
  | some (.file _ _) => .error .notDirectory
  | none => .error .missing

/-- Follows names from a place. What the last one names need not exist. -/
def follow (s : Storage) : List String → List String → Except StorageError (List String)
  | place, [] => .ok place
  | place, name :: rest => do
    s.checkDirectory place
    if name = "." then follow s place rest
    else if name = ".." then follow s place.dropLast rest
    else if maxNameBytes < name.utf8ByteSize then .error .nameTooLong
    else follow s (place ++ [name]) rest

def start (s : Storage) (path : String) : List String :=
  if Path.isAbsolute path then [] else s.workDir

/-- The place of a path, which need not exist. An empty path names no place. -/
def place (s : Storage) (path : String) : Except StorageError (List String) := do
  checkPath path
  s.follow (s.start path) (Path.names path)

/-- What is at a place that a path with a slash at its end, or one without, leads to. -/
def nodeFor (s : Storage) (slashed : Bool) (place : List String) :
    Except StorageError (List String × Node) :=
  match s.nodeAt? place with
  | none => .error .missing
  | some .directory => .ok (place, .directory)
  | some (.file content executable) =>
    if slashed then .error .notDirectory else .ok (place, .file content executable)

def find (s : Storage) (path : String) : Except StorageError (List String × Node) := do
  s.nodeFor (Path.endsInSlash path) (← s.place path)

/-- The place of a path at which something is, however long the path is. -/
def resolve? (s : Storage) (path : String) : Option (List String) :=
  if path.isEmpty then none
  else match s.follow (s.start path) (Path.names path) with
    | .ok place => ((s.nodeFor (Path.endsInSlash path) place).map (·.1)).toOption
    | .error _ => none

def isFile (s : Storage) (path : String) : Bool :=
  match s.find path with
  | .ok (_, .file _ _) => true
  | _ => false

def isDirectory (s : Storage) (path : String) : Bool :=
  match s.find path with
  | .ok (_, .directory) => true
  | _ => false

/-! ### Reading and writing -/

def read (s : Storage) (path : String) : Except StorageError ByteArray := do
  match ← s.find path with
  | (_, .file content _) => .ok content
  | (_, .directory) => .error .isDirectory

def put (s : Storage) (place : List String) (node : Node) : Storage :=
  { s with nodes := (place, node) :: s.nodes.filter (·.1 != place) }

/-- Writes a file. Its directory has to exist, and it must not be a directory itself; a path
    that ends in a slash can only be one, whatever its last name is. The right to execute an
    existing file is kept. -/
def write (s : Storage) (path : String) (content : ByteArray) : Except StorageError Storage := do
  checkPath path
  if Path.endsInSlash path then
    let above ← s.follow (s.start path) (Path.names path).dropLast
    s.checkDirectory above
    .error .isDirectory
  let place ← s.place path
  match s.nodeAt? place with
  | some .directory => .error .isDirectory
  | some (.file _ executable) => .ok (s.put place (.file content executable))
  | none => .ok (s.put place (.file content false))

def makeDirectory (s : Storage) (path : String) : Except StorageError Storage := do
  let place ← s.place path
  match s.nodeAt? place with
  | some _ => .error .alreadyExists
  | none => .ok (s.put place .directory)

/-- Makes the first one of some directories, where each one is below the next one, after all of
    those that are missing. A directory that is there already will do. -/
def makeNested (s : Storage) : List String → Except StorageError Storage
  | [] => .ok s
  | path :: above =>
    match s.makeDirectory path with
    | .ok s => .ok s
    | .error .missing => do
      let s ← s.makeNested above
      match s.makeDirectory path with
      | .ok s => .ok s
      | .error e => if s.isDirectory path then .ok s else .error e
    | .error e => if s.isDirectory path then .ok s else .error e

/-- Makes a directory and all directories above it. Nothing is to be made for an empty path. The
    last name of the path is taken as it is written: a dot there is only found in a directory
    that exists. -/
def makeDirectories (s : Storage) (path : String) : Except StorageError Storage :=
  if path.isEmpty then .ok s
  else s.makeNested (path :: (Path.leading path).dropLast.reverse)

/-! ### Looking around -/

/-- The names and nodes directly below a place, sorted by name. -/
def children (s : Storage) (place : List String) : List (String × Node) :=
  let below := s.nodes.filterMap fun (p, node) =>
    if p.length = place.length + 1 ∧ p.dropLast = place then
      p.getLast?.map fun name => (name, node)
    else none
  below.mergeSort fun a b => decide (a.1 ≤ b.1)

/-- A tree with the given files and directories below the working directory; a path that ends
    in a slash is a directory. Directories above them are made. -/
def withFile (s : Storage) (path : String) (content : ByteArray) (executable : Bool) : Storage :=
  let made (paths : List String) := (s.makeNested paths.reverse).toOption.getD s
  let leading := Path.leading path
  if Path.endsInSlash path then made leading
  else (made leading.dropLast).put (s.workDir ++ Path.components path) (.file content executable)

end Storage

end TimedTrials
