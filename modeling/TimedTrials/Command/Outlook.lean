/-
  TimedTrials/Command/Outlook.lean
  ================================
  **What a command looks at on a disk.**

  A command works on a tree of files that is given to it as a whole. Only some paths of the
  disk have to be in that tree: files whose content is read, and places where it matters what
  is there, so many levels deep.
-/
import TimedTrials.Command.Perform

namespace TimedTrials

/-- A path to look at, whether the content of a file there is needed, and how many levels below
    a directory there are looked at as well. -/
structure Glance where
  path : String
  content : Bool
  depth : Nat
deriving DecidableEq, Repr

namespace Glance

def file (path : String) : Glance := ⟨path, true, 0⟩

def directory (path : String) : Glance := ⟨path, false, 1⟩

/-- A directory that images are looked for in, with what is below it. -/
def images (path : String) : Glance := ⟨path, false, 16⟩

end Glance

namespace Storage

def mounted (s : Storage) (path : String) (node : Node) : Storage :=
  match (s.makeNested (Path.leading path).reverse).bind fun made =>
      (made.place path).map fun p => made.put p node with
  | .ok s => s
  | .error _ => s

end Storage

namespace Command

def TableChoice.outlook (t : TableChoice) : List Glance := [.file t.table, .images t.images]

/-- The places where a program is looked for. -/
def programOutlook (environment : Environment) (name : String) : List Glance :=
  (Storage.candidates name (programDirectories environment)).map .file

def outlook (environment : Environment) : Command → List Glance
  | .validate t => TableChoice.outlook t
  | .convert input output => [.file input, .directory output]
  | .sequence t _ => TableChoice.outlook t
  | .compile t r _ browse =>
    TableChoice.outlook t ++ [.directory r.out]
      ++ (if browse then programOutlook environment browserProgram else [])
  | .run t r _ font =>
    TableChoice.outlook t ++ [.directory r.out]
      ++ (font.toList ++ Font.systemFonts).map .file

/-- The interpreters of the scripts among the files that a command looks at. -/
def interpreterOutlook (s : Storage) (seen : List Glance) : List Glance :=
  seen.filterMap fun g =>
    match s.executable g.path with
    | .ok content =>
      match Storage.Start.of? (Storage.headOf content) with
      | some (.script interpreter) => some (.file interpreter)
      | _ => none
    | .error _ => none

end Command

end TimedTrials
