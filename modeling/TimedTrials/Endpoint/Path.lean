/-
  TimedTrials/Endpoint/Path.lean
  ==============================
  **The paths of addresses.**

  A path consists of segments. A single dot stays, and two dots go up to the parent, which is
  never above the root, nor above a drive: a letter with a colon. The first segment of a file's
  path may write a drive with a bar, and a file's path does not begin with empty segments.
-/
import TimedTrials.Endpoint.Basic
import TimedTrials.Text.Case
import TimedTrials.Text.Percent

namespace TimedTrials.Endpoint

def fragmentSet : List Char := [' ', '"', '<', '>', Char.ofNat 0x60]

def pathSet : List Char := fragmentSet ++ ['#', '?', '\x7b', '\x7d']

/-! ### Segments -/

def isDot (segment : List Char) : Bool :=
  let s := segment.map Text.lowerAsciiChar
  s == ['.'] || s == "%2e".toList

def isDoubleDot (segment : List Char) : Bool :=
  let s := segment.map Text.lowerAsciiChar
  s == "..".toList || s == ".%2e".toList || s == "%2e.".toList || s == "%2e%2e".toList

/-- A letter with a colon or a bar. -/
def isDrive (segment : List Char) : Bool :=
  match segment with
  | [letter, mark] => letter.isAlpha && (mark == ':' || mark == '|')
  | _ => false

/-- A segment that begins the path of a file, where a drive has a colon. -/
def firstSegment (segment : List Char) : List Char :=
  if isDrive segment then segment.take 1 ++ [':'] else segment

def parent (done : List (List Char)) : List (List Char) :=
  match done with
  | last :: above => if isDrive last then done else above
  | [] => []

/-- What resolving a path brought: its segments, and whether it begins with a drive. -/
structure Resolved where
  segments : List (List Char)
  hasDrive : Bool

/-- Resolves the segments of a path; those so far stand newest first. A dot at the end leaves an
    empty segment. -/
def resolve (kind : SchemeKind) : List (List Char) → Bool → List (List Char) → Resolved
  | done, hasDrive, [] => ⟨done.reverse, hasDrive⟩
  | done, hasDrive, segment :: rest =>
    let close (done : List (List Char)) := if rest.isEmpty then [] :: done else done
    if isDoubleDot segment then resolve kind (close (parent done)) hasDrive rest
    else if isDot segment then resolve kind (close done) hasDrive rest
    else if kind = .file && done.isEmpty then
      resolve kind [firstSegment segment] (hasDrive || isDrive segment) rest
    else resolve kind (segment :: done) hasDrive rest

def withoutEmpty : List (List Char) → List (List Char)
  | [] :: segment :: rest => withoutEmpty (segment :: rest)
  | segments => segments

/-- A path that begins at the root, from the text behind the first slash, and whether it begins
    with a drive. -/
def rooted (kind : SchemeKind) (cs : List Char) : String × Bool :=
  let resolved := resolve kind [] false (cs.splitOnP kind.isSlash)
  let segments := if kind = .file then withoutEmpty resolved.segments else resolved.segments
  (String.join (segments.map fun s => "/" ++ Text.percentEncode pathSet s), resolved.hasDrive)

/-- The path behind an authority. Only an address with a host of another kind may have none. -/
def afterAuthority (kind : SchemeKind) (cs : List Char) : String × Bool :=
  match cs with
  | [] => if kind = .other then ("", false) else ("/", false)
  | c :: rest => rooted kind (if kind.isSlash c then rest else c :: rest)

end TimedTrials.Endpoint
