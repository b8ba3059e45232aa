/-
  TimedTrials/Storage/Changes.lean
  ================================
  **What has been written**: the files of a tree that an earlier tree does not have, or has
  with other content.
-/
import TimedTrials.Storage.Tree

namespace TimedTrials.Storage

def hasFile (s : Storage) (place : List String) (content : ByteArray) : Bool :=
  match s.nodes.lookup place with
  | some (.file old _) => old == content
  | _ => false

/-- The path of a place below the working directory. -/
def pathBelow? (s : Storage) (place : List String) : Option String :=
  if s.workDir.isPrefixOf place then some ("/".intercalate (place.drop s.workDir.length)) else none

/-- The new and changed files below the working directory with their content, sorted by path. -/
def changedSince (before after : Storage) : List (String × ByteArray) :=
  let changed := after.nodes.filterMap fun (place, node) =>
    match node with
    | .directory => none
    | .file content _ =>
      if before.hasFile place content then none
      else (after.pathBelow? place).map fun path => (path, content)
  changed.mergeSort fun a b => decide (a.1 ≤ b.1)

end TimedTrials.Storage
