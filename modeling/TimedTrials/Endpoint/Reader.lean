/-
  TimedTrials/Endpoint/Reader.lean
  ================================
  **Reading an absolute address into its normal form.**

  What stands behind the scheme depends on its kind. A scheme with a host takes any number of
  slashes, an address of a file has an authority behind two slashes and else begins with its path,
  and any other scheme has an authority behind two slashes, a path behind one, and else a text
  that is no path.
-/
import TimedTrials.Endpoint.Host
import TimedTrials.Endpoint.Path
import TimedTrials.Text.Blank

namespace TimedTrials.Endpoint

/-- The characters that an address is read from: without controls and blanks at its ends, and
    without tabs and line breaks. -/
def relevant (s : String) : List Char :=
  (Text.stripEnds (fun c => decide (c.toNat ≤ 0x20)) s.toList).filter fun c =>
    !(c == '\t' || c == '\n' || c == '\r')

def isSchemeChar (c : Char) : Bool := c.isAlphanum || c == '+' || c == '-' || c == '.'

/-- The scheme of an address, in lower case, and the text behind the colon. -/
def scheme? (cs : List Char) : Option (String × List Char) := do
  let (name, _, rest) ← Text.cutAt? (· == ':') cs
  match name with
  | c :: more =>
    if c.isAlpha && more.all isSchemeChar then
      some (Text.lowerAscii (String.ofList name), rest)
    else none
  | [] => none

/-! ### The end of an address -/

def querySet (kind : SchemeKind) : List Char :=
  [' ', '"', '#', '<', '>'] ++ (if kind = .other then [] else ['\''])

def splitAt (x : Char) (cs : List Char) : List Char × Option (List Char) :=
  match Text.cutAt? (· == x) cs with
  | some (before, _, after) => (before, some after)
  | none => (cs, none)

structure Tail where
  query : Option String
  fragment : Option String

def splitTail (kind : SchemeKind) (cs : List Char) : List Char × Tail :=
  let (rest, fragment) := splitAt '#' cs
  let (rest, query) := splitAt '?' rest
  (rest, ⟨query.map (Text.percentEncode (querySet kind)),
    fragment.map (Text.percentEncode fragmentSet)⟩)

def ofParts (scheme : String) (authority : Option Authority) (path : String) (t : Tail) :
    Endpoint := ⟨scheme, authority, path, t.query, t.fragment⟩

/-! ### Kinds of addresses -/

/-- The address behind the slashes in front of an authority. -/
def withAuthority? (scheme : String) (cs : List Char) (t : Tail) : Option Endpoint := do
  let kind := SchemeKind.of scheme
  let inside := cs.takeWhile (!kind.isSlash ·)
  let outside := cs.drop inside.length
  let isLast := outside.isEmpty && t.query.isNone && t.fragment.isNone
  let (authority, rest) ← authority? scheme isLast inside
  some (ofParts scheme (some authority) (afterAuthority kind (rest ++ outside)).1 t)

/-- The address of a file. A path with a drive has no host. -/
def file? (cs : List Char) (t : Tail) : Option Endpoint := do
  let isSlash := SchemeKind.isSlash .file
  let ofPath (host : String) (path : String × Bool) : Endpoint :=
    ofParts "file" (some (.ofHost (if path.2 then "" else host))) path.1 t
  match cs with
  | a :: b :: rest =>
    if isSlash a && isSlash b then
      let name := rest.takeWhile (!isSlash ·)
      let host ← fileHost? name
      let behind := if isDrive name then rest else rest.drop name.length
      some (ofPath host (if host.isEmpty then rooted .file behind else afterAuthority .file behind))
    else some (ofPath "" (afterAuthority .file cs))
  | _ => some (ofPath "" (afterAuthority .file cs))

def other? (scheme : String) (cs : List Char) (t : Tail) : Option Endpoint :=
  match Text.dropHead? ['/', '/'] cs, cs with
  | some rest, _ => withAuthority? scheme rest t
  | none, '/' :: rest => some (ofParts scheme none (rooted .other rest).1 t)
  | none, _ => some (ofParts scheme none (Text.percentEncode [] cs) t)

def read? (s : String) : Option Endpoint := do
  let (scheme, rest) ← scheme? (relevant s)
  let kind := SchemeKind.of scheme
  let (rest, t) := splitTail kind rest
  match kind with
  | .host => withAuthority? scheme (rest.dropWhile kind.isSlash) t
  | .file => file? rest t
  | .other => other? scheme rest t

end TimedTrials.Endpoint
