/-
  TimedTrials/Stimulus/Basic.lean
  ===============================
  **What a stimulus shows**: segments of markup and images, and a place on the screen.

  An image may ask for a size; `fit` computes the box it gets on a viewport, in single
  precision. `Position.anchor` places a box of content inside a frame.
-/
namespace TimedTrials

/-! ### Places on the screen -/

inductive Vertical where
  | top
  | center
  | bottom
deriving DecidableEq, Repr

inductive Horizontal where
  | left
  | center
  | right
deriving DecidableEq, Repr

structure Position where
  vertical : Vertical
  horizontal : Horizontal
deriving DecidableEq, Repr

def Vertical.name : Vertical → String
  | .top => "top"
  | .center => "center"
  | .bottom => "bottom"

def Horizontal.name : Horizontal → String
  | .left => "left"
  | .center => "center"
  | .right => "right"

namespace Position

def middle : Position := ⟨.center, .center⟩

/-- The written name of a place, such as `top-left`. -/
def name (p : Position) : String := p.vertical.name ++ "-" ++ p.horizontal.name

end Position

/-! ### Single precision -/

namespace Single

/-- The smaller of two numbers; what is not a number is passed over. -/
def min (a b : Float32) : Float32 :=
  if a.isNaN then b else if b.isNaN then a else if a < b then a else b

/-- The larger of two numbers; what is not a number is passed over. -/
def max (a b : Float32) : Float32 :=
  if a.isNaN then b else if b.isNaN then a else if a > b then a else b

def ofNat (n : Nat) : Float32 := n.toUInt64.toFloat32

end Single

/-- Where one side of a content box begins inside a frame: at its start (`0`), in its middle
    (`1`) or at its end (`2`), but never before it. -/
def Position.offset (place : Nat) (frame content : Float32) : Float32 :=
  let free := frame - content
  Single.max (if place = 0 then 0 else if place = 1 then free / 2 else free) 0

/-- The left and top corner of a content box inside a frame, both given as width and height. -/
def Position.anchor (p : Position) (frame content : Float32 × Float32) : Float32 × Float32 :=
  let column := match p.horizontal with | .left => 0 | .center => 1 | .right => 2
  let row := match p.vertical with | .top => 0 | .center => 1 | .bottom => 2
  (offset column frame.1 content.1, offset row frame.2 content.2)

/-! ### Images -/

/-- An image by its file name in the image directory, and the size it asks for in pixels. -/
structure ImageRef where
  file : String
  width : Option Nat
  height : Option Nat
deriving DecidableEq, Repr

namespace ImageRef

/-- The largest share of the viewport that an image may cover in either dimension. -/
def maxViewportShare : Float32 := 0.9

/-- The size an image asks for: a size that is given wins, a missing side follows the natural
    aspect ratio. -/
def requested (image : ImageRef) (nw nh : Float32) : Float32 × Float32 :=
  match image.width.map Single.ofNat, image.height.map Single.ofNat with
  | some w, some h => (w, h)
  | some w, none => (w, nh * w / nw)
  | none, some h => (nw * h / nh, h)
  | none, none => (nw, nh)

/-- A side in whole pixels, at least one. -/
def pixels (x : Float32) : Nat := (Single.max x.round 1).toUInt32.toNat

/-- The box of an image with the given natural size on a viewport. A box that would cover more
    than its share of the viewport is scaled down and keeps its aspect ratio. -/
def fit (image : ImageRef) (natural viewport : Nat × Nat) : Nat × Nat :=
  let (w, h) := image.requested (Single.ofNat (max natural.1 1)) (Single.ofNat (max natural.2 1))
  let maxW := Single.ofNat viewport.1 * maxViewportShare
  let maxH := Single.ofNat viewport.2 * maxViewportShare
  let scale := Single.min (Single.min (maxW / w) (maxH / h)) 1
  (pixels (w * scale), pixels (h * scale))

end ImageRef

/-! ### Stimuli -/

/-- A piece of a stimulus: markup that is passed through, or an image. -/
inductive Segment where
  | markup (text : String)
  | image (ref : ImageRef)
deriving DecidableEq, Repr

/-- A stimulus as it is shown, with the option tokens that were not understood. -/
structure Stimulus where
  segments : List Segment
  position : Position
  ignored : List String
deriving DecidableEq, Repr

namespace Stimulus

def images (s : Stimulus) : List ImageRef :=
  s.segments.filterMap fun
    | .image ref => some ref
    | .markup _ => none

def text (s : Stimulus) : String :=
  String.join (s.segments.filterMap fun
    | .markup t => some t
    | .image _ => none)

end Stimulus

end TimedTrials
