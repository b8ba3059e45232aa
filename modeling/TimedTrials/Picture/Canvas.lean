/-
  TimedTrials/Picture/Canvas.lean
  ===============================
  **The screens of an experiment as pictures.**

  A screen stacks its items: lines of text, images, gaps and a box for a typed answer. The
  stack stands at the place that the stimulus asks for, and every item is centered in its
  column. Layout is computed in single precision and rounded to whole pixels where an item
  is drawn.

  Images are decoded before a run begins; one that was not is left out, with a warning. A
  screen that cannot be drawn leaves its background behind.
-/
import TimedTrials.Log
import TimedTrials.Picture.Font
import TimedTrials.Picture.Markup
import TimedTrials.Stimulus.Directive
import TimedTrials.Trial.Spec

namespace TimedTrials

inductive Screen where
  | blank
  | message (text : String)
  | trial (spec : TrialSpec) (entry : Option String)
  | feedback (spec : TrialSpec) (message : String)

/-- A picture to draw on, with its font and the images that were decoded for it. -/
structure Canvas where
  picture : Picture
  font : Font
  imageDir : String
  images : List (String × Picture)

inductive CanvasError where
  | size (width height : Nat)
  | image (path : String)
  | stimulus (e : DirectiveError)
deriving DecidableEq, Repr

/-- The error as the user sees it; the cause of a failure to decode is the decoder's own. -/
def CanvasError.message : CanvasError → String
  | .size width height => s!"canvas of {width}x{height} pixels cannot be allocated"
  | .image path => s!"failed to decode image {path}"
  | .stimulus e => e.message

/-- The outcome of an operation with the canvas after it and what was reported. -/
structure Canvas.Done (α : Type) where
  outcome : Except CanvasError α
  canvas : Canvas
  log : Log

/-! ### Items of a screen -/

inductive ScreenItem where
  | picture (p : Picture)
  | space (width height : Float32)

namespace ScreenItem

def size : ScreenItem → Float32 × Float32
  | .picture p => (Single.ofNat p.width, Single.ofNat p.height)
  | .space width height => (width, height)

/-- The size of a stack: the widest item and all heights. -/
def stackSize (items : List ScreenItem) : Float32 × Float32 :=
  items.foldl (fun (w, h) item => (Single.max w item.size.1, h + item.size.2)) (0, 0)

/-- Where items below each other end, when they begin at a height. -/
def bottom (top : Float32) (items : List ScreenItem) : Float32 :=
  items.foldl (fun y item => y + item.size.2) top

def whole (x : Float32) : Int := x.toInt32.toInt

/-- Draws items from top to bottom, each centered in a column. -/
def drawStack (left column : Float32) : Picture → Float32 → List ScreenItem → Picture
  | p, _, [] => p
  | p, y, item :: rest =>
    let (w, h) := item.size
    let x := left + (column - w) / 2
    let drawn := match item with
      | .picture top => p.draw top (whole x.round) (whole y.round)
      | .space _ _ => p
    drawStack left column drawn (y + h) rest

end ScreenItem

namespace Canvas

/-! ### Measures -/

def stimulusSize : Nat := 32

def feedbackSize : Nat := 24

def entrySize : Nat := 24

def lineGap : Float32 := 8

def feedbackMargin : Float32 := 20

/-- The room around feedback inside its box, at its sides and above and below it. -/
def feedbackPadding : Float32 × Float32 := (12, 8)

def entryWidth : Float32 := 320

def entryHeight : Float32 := Single.ofNat entrySize * 1.6

/-- The largest share of the screen's width that an answer box may cover. -/
def maxEntryShare : Float32 := 0.9

def entryPadding : Float32 := 8

def halfBorder : Float32 := 0.75

/-- The color that a name stands for when no other is known. -/
def defaultBackground : Color := (Color.read? TrialSpec.defaultBackgroundColor).getD ⟨169, 169, 169⟩

def white : Color := ⟨255, 255, 255⟩

def black : Color := ⟨0, 0, 0⟩

def borderColor : Color := ⟨60, 60, 60⟩

/-- The opacity of a placeholder and of the box behind feedback. -/
def dimAlpha : UInt8 := 153

/-! ### Making and resizing -/

def new (width height : Nat) (font : Font) (imageDir : String) : Except CanvasError Canvas :=
  if Picture.canHaveSize width height then
    .ok ⟨Picture.filled width height Pixel.clear, font, imageDir, []⟩
  else .error (.size width height)

/-- The canvas in another size, with nothing on it. In its own size it stays as it is. -/
def resize (c : Canvas) (width height : Nat) : Except CanvasError Canvas :=
  if width = c.picture.width ∧ height = c.picture.height then .ok c
  else if Picture.canHaveSize width height then
    .ok { c with picture := Picture.filled width height Pixel.clear }
  else .error (.size width height)

def frame (c : Canvas) : Float32 × Float32 :=
  (Single.ofNat c.picture.width, Single.ofNat c.picture.height)

/-! ### Images -/

/-- Decodes images that are not there yet, in order, given how a path is decoded. The first
    one that cannot be decoded ends this; those before it stay. Counts the new ones. -/
def preload (decode : String → Option Picture) (c : Canvas) :
    List String → Canvas.Done Nat
  | [] => ⟨.ok 0, c, []⟩
  | file :: rest =>
    if (c.images.lookup file).isSome then preload decode c rest
    else
      let path := Path.join c.imageDir file
      match decode path with
      | none => ⟨.error (.image path), c, []⟩
      | some p =>
        let done := preload decode { c with images := (file, p) :: c.images } rest
        let entry : LogEntry := ⟨.debug, "image decoded", [("file", .text file),
          ("width", .ofNat p.width), ("height", .ofNat p.height)]⟩
        ⟨done.outcome.map (· + 1), done.canvas, entry :: done.log⟩

/-- The images that trials show, in order. -/
def imageFiles (specs : List TrialSpec) : Except DirectiveError (List String) := do
  let stimuli ← specs.mapM fun s => Stimulus.read s.stimulus
  pure ((stimuli.flatMap (·.images)).map (·.file))

/-- Decodes the images of trials; nothing is decoded when one of the stimuli is bad. -/
def preloadSpecs (decode : String → Option Picture) (c : Canvas) (specs : List TrialSpec) :
    Canvas.Done Nat :=
  match imageFiles specs with
  | .error e => ⟨.error (.stimulus e), c, []⟩
  | .ok files => c.preload decode files

/-! ### Texts -/

/-- The item of one line; a line that shows nothing keeps its height. -/
def lineItem (c : Canvas) (color : Color) (line : String) : ScreenItem :=
  match c.font.line? stimulusSize (Ink.solid color) line with
  | some p => .picture p
  | none => .space 0 (Single.ofNat stimulusSize)

def textItems (c : Canvas) (color : Color) (markup : String) : List ScreenItem :=
  ((Markup.plainLines markup).map (c.lineItem color)).intersperse (.space 0 lineGap)

/-! ### Stimuli -/

def segmentItems (c : Canvas) (color : Color) : Segment → List ScreenItem
  | .markup text => c.textItems color text
  | .image ref =>
    match c.images.lookup ref.file with
    | none => []
    | some p =>
      let (w, h) := ref.fit (p.width, p.height) (c.picture.width, c.picture.height)
      [.picture (p.resized w h)]

def missingImages (c : Canvas) (s : Stimulus) : Log :=
  (s.images.filter fun ref => (c.images.lookup ref.file).isNone).map fun ref =>
    ⟨.warn, "image was not preloaded", [("file", .text ref.file)]⟩

/-- The color that a name stands for, or another one with a warning. -/
def colorOr (fallback : Color) (what name : String) (row : Nat) : Color × Log :=
  match Color.read? name with
  | some color => (color, [])
  | none => (fallback, [⟨.warn, "unknown " ++ what ++ " color",
      [("color", .text name), ("row", .ofNat row)]⟩])

/-! ### The box for a typed answer -/

/-- An answer box: its width and the text in it. -/
structure EntryBox where
  width : Float32
  text : Option Picture

/-- The answer box of a trial. While nothing is typed it shows the placeholder, dimmed. -/
def entryBox? (c : Canvas) (spec : TrialSpec) (entry : Option String) : Option EntryBox :=
  match spec.response, entry with
  | .text options, some typed =>
    let shown := if typed.isEmpty then options.placeholder.getD "" else typed
    let ink : Ink := ⟨black, if typed.isEmpty then dimAlpha else 255⟩
    let wanted := (options.widthPx.map Single.ofNat).getD entryWidth
    some ⟨Single.min wanted (c.frame.1 * maxEntryShare), c.font.line? entrySize ink shown⟩
  | _, _ => none

/-- Whether the middle of a pixel lies between two limits. A middle on a limit belongs to what
    ends there. -/
def middleWithin (low high : Float32) (n : Nat) : Bool :=
  let middle := Single.ofNat n + 0.5
  decide (low < middle) && decide (middle ≤ high)

/-- Whether the middle of a pixel lies in a rectangle, given by its edges. -/
def middleInside (left top right bottom : Float32) (x y : Nat) : Bool :=
  middleWithin left right x && middleWithin top bottom y

/-- Draws an answer box at a place: white with a border, and as much of the end of its text as
    fits. A box that is narrower than its padding does not cut its text. -/
def drawEntry (p : Picture) (box : EntryBox) (left top : Float32) : Picture :=
  let right := left + box.width
  let bottom := top + entryHeight
  let outer := middleInside (left - halfBorder) (top - halfBorder) (right + halfBorder)
    (bottom + halfBorder)
  let inner := middleInside (left + halfBorder) (top + halfBorder) (right - halfBorder)
    (bottom - halfBorder)
  let boxed := (p.recolor outer fun _ => Pixel.ofColor borderColor).recolor inner
    fun _ => Pixel.ofColor white
  match box.text with
  | none => boxed
  | some text =>
    let room := box.width - entryPadding * 2
    let overflow := Single.max (Single.ofNat text.width - room) 0
    let x := ScreenItem.whole (left + entryPadding - overflow)
    let y := ScreenItem.whole (top + (entryHeight - Single.ofNat text.height) / 2)
    if room < 0 then boxed.draw text x y
    else
      let start := left + entryPadding
      boxed.drawInside text x y (middleInside start top (start + room) bottom)

/-! ### The box behind feedback -/

/-- A number in units of a 256th. -/
def inSteps (x : Float32) : Int := (x * 256).round.toInt32.toInt

/-- How many 256ths of a pixel lie between two limits that are further apart than a pixel. -/
def coverage (low high : Float32) (n : Nat) : Nat :=
  let start := (n : Int) * 256
  (min (inSteps high) (start + 256) - max (inSteps low) start).toNat

/-- Darkens a box. Its pixels at the sides are darkened by the share that lies inside. -/
def darken (p : Picture) (left top right bottom : Float32) : Picture :=
  { p with pixel := fun x y =>
      let below := p.pixel x y
      let dark (opacity : UInt8) : Pixel := (Pixel.ofChannels 0 0 0 opacity).shade below
      match coverage top bottom y, coverage left right x with
      | 0, _ | _, 0 => below
      | _, 256 => dark dimAlpha
      | _, share => dark ((dimAlpha.toNat * share + 255) / 256).toUInt8 }

/-! ### Screens -/

def drawTrial (c : Canvas) (spec : TrialSpec) (entry : Option String) : Canvas.Done Unit :=
  let (background, log) := colorOr defaultBackground "background" spec.backgroundColor spec.row
  let (color, log') := colorOr white "stimulus" spec.stimulusColor spec.row
  let ground := Picture.filled c.picture.width c.picture.height (Pixel.ofColor background)
  match Stimulus.read spec.stimulus with
  | .error e => ⟨.error (.stimulus e), { c with picture := ground }, log ++ log'⟩
  | .ok stimulus =>
    let content := stimulus.segments.flatMap (c.segmentItems color)
    let box := c.entryBox? spec entry
    let items := match box with
      | none => content
      | some b => content ++ [.space 0 (lineGap * 2), .space b.width entryHeight]
    let size := ScreenItem.stackSize items
    let (left, top) := stimulus.position.anchor c.frame size
    let stacked := ScreenItem.drawStack left size.1 ground top items
    let picture := match box with
      | none => stacked
      | some b =>
        drawEntry stacked b (left + (size.1 - b.width) / 2)
          (ScreenItem.bottom top (content ++ [.space 0 (lineGap * 2)]))
    ⟨.ok (), { c with picture := picture }, log ++ log' ++ c.missingImages stimulus⟩

/-- Draws feedback in a dark box above the bottom. Feedback that shows nothing has no box. -/
def drawFeedback (c : Canvas) (message : String) : Canvas :=
  match c.font.line? feedbackSize (Ink.solid white) message with
  | none => c
  | some text =>
    let w := Single.ofNat text.width + feedbackPadding.1 * 2
    let h := Single.ofNat text.height + feedbackPadding.2 * 2
    let x := (c.frame.1 - w) / 2
    let y := c.frame.2 - feedbackMargin - h
    let boxed := darken c.picture x y (x + w) (y + h)
    let left := ScreenItem.whole (x + feedbackPadding.1)
    let top := ScreenItem.whole (y + feedbackPadding.2)
    { c with picture := boxed.draw text left top }

def drawMessage (c : Canvas) (text : String) : Canvas :=
  let ground := Picture.filled c.picture.width c.picture.height (Pixel.ofColor defaultBackground)
  let items := c.textItems white text
  let size := ScreenItem.stackSize items
  let left := (c.frame.1 - size.1) / 2
  let top := (c.frame.2 - size.2) / 2
  { c with picture := ScreenItem.drawStack left size.1 ground top items }

def draw (c : Canvas) : Screen → Canvas.Done Unit
  | .blank =>
    let ground := Picture.filled c.picture.width c.picture.height (Pixel.ofColor defaultBackground)
    ⟨.ok (), { c with picture := ground }, []⟩
  | .message text => ⟨.ok (), c.drawMessage text, []⟩
  | .trial spec entry => c.drawTrial spec entry
  | .feedback spec message =>
    let done := c.drawTrial spec none
    match done.outcome with
    | .error e => ⟨.error e, done.canvas, done.log⟩
    | .ok () => ⟨.ok (), done.canvas.drawFeedback message, done.log⟩

end Canvas

end TimedTrials
