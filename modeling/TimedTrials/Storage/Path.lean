/-
  TimedTrials/Storage/Path.lean
  =============================
  **Path names as text.**

  A path is a text of components between slashes; one that begins with a slash is absolute.
  Joining keeps an absolute second path as it is. The components of a path leave out empty
  and single-dot parts. Two paths are written alike when they only differ in such parts, where
  a dot that begins a relative path counts.
-/
namespace TimedTrials.Path

def isAbsolute (path : String) : Bool := path.toList.head? == some '/'

def join (dir path : String) : String :=
  if isAbsolute path || dir.isEmpty then path
  else if dir.toList.getLast? == some '/' then dir ++ path
  else dir ++ "/" ++ path

def parts (path : String) : List String := (path.toList.splitOn '/').map String.ofList

def components (path : String) : List String :=
  (parts path).filter fun p => !(p.isEmpty || p == ".")

/-- The names along a path, with single dots. -/
def names (path : String) : List String := (parts path).filter fun p => !p.isEmpty

def endsInSlash (path : String) : Bool := path.toList.getLast? == some '/'

/-- The paths that lead to a path, each one longer than the one before. The last one is the path
    itself without empty and single-dot parts. -/
def leading (path : String) : List String :=
  let start := if isAbsolute path then "/" else ""
  let names := components path
  (List.range names.length).map fun n => start ++ "/".intercalate (names.take (n + 1))

/-- Whether a relative path begins with a dot of its own. -/
def beginsWithDot (path : String) : Bool := (parts path).head? == some "."

/-- Whether two paths only differ in empty parts and dots inside of them. -/
def alike (a b : String) : Bool :=
  isAbsolute a == isAbsolute b && beginsWithDot a == beginsWithDot b
    && components a == components b

/-! ### From one place to another -/

/-- How many components two places have in common from the root on. -/
def sharedLength : List String → List String → Nat
  | a :: as, b :: bs => if a = b then sharedLength as bs + 1 else 0
  | _, _ => 0

/-- The components that lead from one place to another: up to what both have in common, and
    down from there. -/
def relative (target base : List String) : List String :=
  let shared := sharedLength target base
  List.replicate (base.length - shared) ".." ++ target.drop shared

end TimedTrials.Path
