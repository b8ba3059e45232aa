/-
  TimedTrials/Picture/Basic.lean
  ==============================
  **Pictures as functions from places to pixels.**

  A pixel holds its channels already multiplied by its opacity, as a channel of 8 bits. A
  picture is a size and a pixel for every place inside it; columns count from the left and
  rows from the top. Drawing makes a new picture whose pixels are computed from the old ones,
  so what a drawing operation does is said place by place.
-/
import TimedTrials.Picture.Color

namespace TimedTrials

/-! ### Pixels -/

/-- The channels of one place, multiplied by its opacity. -/
structure Pixel where
  red : UInt8
  green : UInt8
  blue : UInt8
  alpha : UInt8
deriving DecidableEq, Repr

/-- A color with an opacity, as a pen uses it; the color is not multiplied yet. -/
structure Ink where
  color : Color
  alpha : UInt8
deriving DecidableEq, Repr

namespace Pixel

def clear : Pixel := ⟨0, 0, 0, 0⟩

def ofColor (c : Color) : Pixel := ⟨c.red, c.green, c.blue, 255⟩

/-- A channel times an opacity, in units of 255. The product is divided by 256 twice, which
    rounds it to the nearest whole number. -/
def multiplied (channel alpha : UInt8) : UInt8 :=
  let t := channel.toNat * alpha.toNat + 128
  ((t + t / 256) / 256).toUInt8

def ofChannels (red green blue alpha : UInt8) : Pixel :=
  ⟨multiplied red alpha, multiplied green alpha, multiplied blue alpha, alpha⟩

def zipWith (f : UInt8 → UInt8 → UInt8) (p q : Pixel) : Pixel :=
  ⟨f p.red q.red, f p.green q.green, f p.blue q.blue, f p.alpha q.alpha⟩

/-- A pixel over another one. What shows through is rounded to the nearest whole number; a half
    cannot occur. -/
def blend (top below : Pixel) : Pixel :=
  let through := 255 - top.alpha.toNat
  zipWith (fun s d => (s.toNat + (2 * d.toNat * through + 255) / 510).toUInt8) top below

/-- A pixel over another one, where what shows through is rounded up in units of 256. Large
    plain areas are filled in this way. -/
def shade (top below : Pixel) : Pixel :=
  let through := 255 - top.alpha.toNat
  zipWith (fun s d => (s.toNat + (d.toNat * through + 255) / 256).toUInt8) top below

def bytes (p : Pixel) : List UInt8 := [p.red, p.green, p.blue, p.alpha]

end Pixel

namespace Ink

def solid (c : Color) : Ink := ⟨c, 255⟩

/-- One channel drawn over another one, in single precision. -/
def mix (share : Float32) (s d : UInt8) : UInt8 :=
  let sum := Float32.ofNat s.toNat * share + Float32.ofNat d.toNat * (1 - share)
  if sum.round < 255 then sum.round.toUInt8 else 255

/-- A pixel with ink on it. No channel exceeds the opacity. -/
def drawOn (ink : Ink) (p : Pixel) : Pixel :=
  let share := Float32.ofNat ink.alpha.toNat / 255
  let alpha := mix share 255 p.alpha
  ⟨min (mix share ink.color.red p.red) alpha, min (mix share ink.color.green p.green) alpha,
    min (mix share ink.color.blue p.blue) alpha, alpha⟩

end Ink

/-! ### Pictures -/

/-- A size in pixels, and the pixel at a column and a row. -/
structure Picture where
  width : Nat
  height : Nat
  pixel : Nat → Nat → Pixel

namespace Picture

def filled (width height : Nat) (p : Pixel) : Picture := ⟨width, height, fun _ _ => p⟩

/-- The widest row that a picture can have, in bytes. -/
def maxRowBytes : Nat := 2147483647

/-- Whether a picture can have a size: it is not empty, and its rows are not too wide. -/
def canHaveSize (width height : Nat) : Bool :=
  decide (0 < width) && decide (0 < height) && decide (4 * width ≤ maxRowBytes)

def recolor (p : Picture) (area : Nat → Nat → Bool) (f : Pixel → Pixel) : Picture :=
  { p with pixel := fun x y => if area x y then f (p.pixel x y) else p.pixel x y }

def pixelAt? (p : Picture) (x y : Int) : Option Pixel :=
  if 0 ≤ x ∧ x < p.width ∧ 0 ≤ y ∧ y < p.height then some (p.pixel x.toNat y.toNat) else none

/-- Draws a picture over another one with its left and top edge at a place, inside an area. -/
def drawInside (p top : Picture) (left upper : Int) (area : Nat → Nat → Bool) : Picture :=
  { p with pixel := fun x y =>
      let below := p.pixel x y
      if area x y then
        match top.pixelAt? (x - left) (y - upper) with
        | some pixel => pixel.blend below
        | none => below
      else below }

def draw (p top : Picture) (left upper : Int) : Picture :=
  p.drawInside top left upper fun _ _ => true

/-- A picture in another size. Every pixel takes the one that its middle falls on. -/
def resized (p : Picture) (width height : Nat) : Picture :=
  ⟨width, height, fun x y =>
    p.pixel ((2 * x + 1) * p.width / (2 * width)) ((2 * y + 1) * p.height / (2 * height))⟩

def rows (p : Picture) : List (List Pixel) :=
  (List.range p.height).map fun y => (List.range p.width).map fun x => p.pixel x y

def bytes (p : Picture) : List UInt8 := (p.rows.flatMap id).flatMap Pixel.bytes

end Picture

end TimedTrials
