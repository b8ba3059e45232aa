/-
  TimedTrials/Stored/Stimulus.lean
  ================================
  **The JSON form of stimuli**: positions, images, segments and whole stimuli.

  The tokens that were not understood are no part of a stored stimulus. A segment's value that
  stands before its kind is kept until the kind is known; `level` counts the lists and objects
  around a segment.
-/
import TimedTrials.Json.Printer
import TimedTrials.Json.Record
import TimedTrials.Stimulus.Basic

namespace TimedTrials

namespace Vertical

def ofJson? (v : Json) : Option Vertical := do
  let name ← v.name?
  [top, center, bottom].find? (·.name == name)

end Vertical

namespace Horizontal

def ofJson? (v : Json) : Option Horizontal := do
  let name ← v.name?
  [left, center, right].find? (·.name == name)

end Horizontal

namespace Position

def toJson (p : Position) : Json :=
  .obj [("vertical", .str p.vertical.name), ("horizontal", .str p.horizontal.name)]

def ofJson? (v : Json) : Option Position := do
  let [vertical, horizontal] ← v.record? ["vertical", "horizontal"] | none
  pure ⟨← Json.need Vertical.ofJson? vertical, ← Json.need Horizontal.ofJson? horizontal⟩

end Position

namespace ImageRef

def toJson (image : ImageRef) : Json :=
  .obj [("file", .str image.file), ("width", Json.opt Json.nat image.width),
    ("height", Json.opt Json.nat image.height)]

def ofJson? (v : Json) : Option ImageRef := do
  let [file, width, height] ← v.record? ["file", "width", "height"] | none
  pure ⟨← Json.need Json.str? file, ← Json.maybe Json.nat32? width,
    ← Json.maybe Json.nat32? height⟩

end ImageRef

namespace Segment

def toJson : Segment → Json
  | .markup text => .obj [("kind", .str "markup"), ("value", .str text)]
  | .image ref => .obj [("kind", .str "image"), ("value", ref.toJson)]

/-- Whether the value of a segment stands before its kind. -/
def valueIsFirst : Json → Bool
  | .obj fields => (fields.map (·.1)).find? (["kind", "value"].contains ·) == some "value"
  | _ => false

def ofJson? (level : Nat) (v : Json) : Option Segment := do
  let [kind, value] ← v.record? ["kind", "value"] | none
  if valueIsFirst v && !value.all (Json.canKeep (level + 1)) then none
  let kind ← Json.need Json.name? kind
  if kind = "markup" then pure (.markup (← Json.need Json.str? value))
  else if kind = "image" then pure (.image (← Json.need ImageRef.ofJson? value))
  else none

end Segment

namespace Stimulus

def toJson (s : Stimulus) : Json :=
  .obj [("segments", Json.list Segment.toJson s.segments), ("position", s.position.toJson)]

def ofJson? (v : Json) : Option Stimulus := do
  let [segments, position] ← v.record? ["segments", "position"] | none
  pure ⟨← Json.need (Json.list? (Segment.ofJson? 2)) segments, ← Json.need Position.ofJson? position, []⟩

end Stimulus

end TimedTrials
