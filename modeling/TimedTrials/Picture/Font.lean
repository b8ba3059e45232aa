/-
  TimedTrials/Picture/Font.lean
  =============================
  **Fonts whose glyphs are made of boxes**, and lines of text drawn with them.

  A font is measured in steps; its ascent and its descent add up to the height of a line. A
  glyph has an advance and boxes whose corners lie on whole steps, with heights counted
  upward from the baseline. The picture of a line is just wide enough for what it shows and
  for the place where the pen stops, and always as high as a line.
-/
import TimedTrials.Picture.Basic
import TimedTrials.Storage.Tree

namespace TimedTrials

/-! ### Glyphs and fonts -/

/-- A rectangle in steps, from its left and bottom corner to its right and top corner. -/
structure GlyphBox where
  left : Int
  bottom : Int
  right : Int
  top : Int
deriving DecidableEq, Repr

/-- What a character looks like and how far it moves the pen. The boxes do not overlap. -/
structure Glyph where
  advance : Nat
  boxes : List GlyphBox
deriving DecidableEq, Repr

/-- A font. Kerning moves the pen between two characters that stand side by side. -/
structure Font where
  ascent : Nat
  descent : Nat
  glyph : Char → Glyph
  kerning : Char → Char → Int

namespace Font

/-- A font of plain boxes, with eight steps to a line. -/
def boxes : Font where
  ascent := 6
  descent := 2
  glyph c :=
    if c = ' ' ∨ c = '~' then ⟨2, []⟩
    else if c.isLower then ⟨4, [⟨1, 0, 3, 4⟩]⟩
    else if c.isUpper then ⟨5, [⟨0, 0, 4, 6⟩]⟩
    else if c.isDigit then ⟨5, [⟨1, -1, 4, 5⟩]⟩
    else if c = '-' then ⟨3, [⟨-1, 2, 2, 3⟩]⟩
    else if c = '_' then ⟨4, [⟨0, -2, 5, -1⟩]⟩
    else if c = '^' then ⟨4, [⟨0, 5, 3, 7⟩]⟩
    else if c = '+' then ⟨4, [⟨0, 0, 3, 1⟩, ⟨0, 1, 1, 4⟩]⟩
    else ⟨4, [⟨0, 0, 3, 3⟩]⟩
  kerning a b := if a.isUpper && b.isLower then -1 else 0

/-! ### Lines of text -/

/-- The glyphs of a text and where the pen is before each of them, and where it stops. -/
def placed (font : Font) (before : Option Char) (pen : Int) :
    List Char → List (Int × Glyph) × Int
  | [] => ([], pen)
  | c :: rest =>
    let start := pen + (before.map (font.kerning · c)).getD 0
    let glyph := font.glyph c
    let (more, stop) := placed font (some c) (start + glyph.advance) rest
    ((start, glyph) :: more, stop)

/-- The boxes of a text, moved to where their glyphs stand; the boxes of one glyph stay
    together, and glyphs without boxes are left out. -/
def shapes (glyphs : List (Int × Glyph)) : List (List GlyphBox) :=
  (glyphs.map fun (pen, g) =>
    g.boxes.map fun b => { b with left := b.left + pen, right := b.right + pen }).filter
      (!·.isEmpty)

/-- Whether a place of a line picture lies inside a box. The picture begins at `origin`, in
    steps, and has `step` pixels to a step. -/
def covers (font : Font) (step : Nat) (origin : Int) (x y : Nat) (b : GlyphBox) : Bool :=
  decide ((b.left - origin) * step ≤ x) && decide ((x : Int) < (b.right - origin) * step) &&
  decide ((font.ascent - b.top) * step ≤ (y : Int)) &&
  decide ((y : Int) < (font.ascent - b.bottom) * step)

/-- The picture of one line of text with a line height in pixels. A text that shows nothing has
    none. -/
def line? (font : Font) (size : Nat) (ink : Ink) (text : String) : Option Picture :=
  let (glyphs, stop) := font.placed none 0 text.toList
  let shapes := shapes glyphs
  if shapes.isEmpty then none
  else
    let step := size / (font.ascent + font.descent)
    let boxes := shapes.flatMap id
    let origin := (boxes.map (·.left)).foldl min 0
    let limit := (boxes.map (·.right)).foldl max stop
    some {
      width := max 1 ((limit - origin).toNat * step)
      height := max 1 size
      pixel := fun x y =>
        shapes.foldl (fun p shape =>
          if shape.any (font.covers step origin x y) then ink.drawOn p else p) Pixel.clear }

/-! ### Font files -/

inductive FontError where
  | unreadable (path : String) (cause : StorageError)
  | unusable (path : String)
deriving DecidableEq, Repr

/-- Loads the font in a file, given how the bytes of a font file are decoded. -/
def load (decode : ByteArray → Option Font) (s : Storage) (path : String) :
    Except FontError Font :=
  match s.read path with
  | .error e => .error (.unreadable path e)
  | .ok bytes =>
    match decode bytes with
    | none => .error (.unusable path)
    | some font => .ok font

def systemFonts : List String := [
  "/usr/share/fonts/truetype/dejavu/DejaVuSans.ttf",
  "/usr/share/fonts/TTF/DejaVuSans.ttf",
  "/usr/share/fonts/dejavu/DejaVuSans.ttf",
  "/usr/share/fonts/truetype/liberation/LiberationSans-Regular.ttf",
  "/System/Library/Fonts/Supplemental/Arial.ttf",
  "/Library/Fonts/Arial.ttf",
  "C:\\Windows\\Fonts\\arial.ttf"]

def findSystemFont? (s : Storage) : Option String := systemFonts.find? s.isFile

end Font

def Font.FontError.message : Font.FontError → String
  | .unreadable path cause => s!"{path}: {cause.message}"
  | .unusable path => s!"{path} is not a usable font"

end TimedTrials
