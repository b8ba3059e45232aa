/-
  TimedTrials/Stimulus/Directive.lean
  ===================================
  **Image directives inside a stimulus**, such as `[image:face.png(top-left, width=200)]`.

  A directive is the mark `[image:`, a file name up to the first of `(`, `)` and `]`, and then
  either `]` or options in parentheses up to the next `)]`. What looks like a directive but
  is not one stays text. Options are separated by commas: `width=N` and `height=N` set the
  size, bare words place the stimulus and may be joined by `-`, `_` or a blank. The last
  directive of a stimulus decides its position.

  A text is first cut into pieces, each of which knows the text it was cut from; the options
  are read afterwards.
-/
import TimedTrials.Number.Integer
import TimedTrials.Stimulus.Basic
import TimedTrials.Text.Blank
import TimedTrials.Text.Case
import TimedTrials.Text.Quoted
import TimedTrials.Text.Search

namespace TimedTrials

/-! ### Cutting a text into pieces -/

/-- The file name and the options of a directive, and the text that it was written as. -/
structure Directive where
  file : List Char
  options : List Char
  source : List Char
deriving DecidableEq, Repr

namespace Directive

def mark : List Char := "[image:".toList

def endsName (c : Char) : Bool := c == '(' || c == ')' || c == ']'

/-- The directive that stands at the head of a text. -/
def at? (cs : List Char) : Option Directive :=
  match Text.dropHead? mark cs with
  | none => none
  | some body =>
    match Text.cutAt? endsName body with
    | none => none
    | some (name, stop, rest) =>
      let file := Text.trimChars name
      if file.isEmpty then none
      else if stop = ']' then some ⟨file, [], mark ++ name ++ [']']⟩
      else if stop = '(' then
        match Text.cut? [')', ']'] rest with
        | none => none
        | some (options, _) =>
          some ⟨file, options, mark ++ name ++ '(' :: options ++ [')', ']']⟩
      else none

end Directive

/-- A stretch of text without a directive, or a directive. -/
inductive Piece where
  | markup (text : List Char)
  | directive (d : Directive)
deriving DecidableEq, Repr

namespace Piece

def source : Piece → List Char
  | .markup text => text
  | .directive d => d.source

/-- Puts a character before the pieces of the text behind it. -/
def consMarkup (c : Char) : List Piece → List Piece
  | .markup text :: rest => .markup (c :: text) :: rest
  | rest => .markup [c] :: rest

/-- The pieces of a text behind its first `skip` characters, which belong to a directive that
    has been taken already. -/
def ofCharsFrom : Nat → List Char → List Piece
  | _, [] => []
  | skip + 1, _ :: cs => ofCharsFrom skip cs
  | 0, c :: cs =>
    match Directive.at? (c :: cs) with
    | some d => .directive d :: ofCharsFrom (d.source.length - 1) cs
    | none => consMarkup c (ofCharsFrom 0 cs)

/-- The pieces of a text: a directive wherever one stands, and markup between them. -/
def ofChars (cs : List Char) : List Piece := ofCharsFrom 0 cs

end Piece

/-! ### Reading the options -/

inductive DirectiveError where
  | invalidSize (file key value : String)
deriving DecidableEq, Repr

def DirectiveError.message : DirectiveError → String
  | .invalidSize file key value =>
    s!"image {file}: {key} must be a whole number of pixels, got " ++ Text.quote value

/-- An image, the position its directive asks for, and the tokens not understood. -/
structure Placed where
  image : ImageRef
  position : Position
  ignored : List String
deriving DecidableEq, Repr

namespace Placed

/-- Takes one bare word: a place moves the stimulus, `center` and its synonyms say nothing. -/
def takeWord (p : Placed) (word : String) : Placed :=
  if word = "top" then { p with position := ⟨.top, p.position.horizontal⟩ }
  else if word = "bottom" then { p with position := ⟨.bottom, p.position.horizontal⟩ }
  else if word = "left" then { p with position := ⟨p.position.vertical, .left⟩ }
  else if word = "right" then { p with position := ⟨p.position.vertical, .right⟩ }
  else if word = "center" ∨ word = "centre" ∨ word = "middle" then p
  else { p with ignored := p.ignored ++ [word] }

def joinsWords (c : Char) : Bool := c == '-' || c == '_' || c == ' '

/-- The bare words of a token, lowercased. -/
def words (token : List Char) : List String :=
  ((token.splitOnP joinsWords).filter (!·.isEmpty)).map
    fun word => String.ofList (Text.lowerChars word)

/-- The value of a size option without its quotes: first single ones, then double ones. -/
def sizeText (value : List Char) : List Char :=
  Text.stripEnds (· == '"') (Text.stripEnds (· == '\'') (Text.trimChars value))

def takeOption (p : Placed) (token : List Char) : Except DirectiveError Placed :=
  match Text.cutAt? (· == '=') token with
  | none => .ok ((words token).foldl takeWord p)
  | some (name, _, value) =>
    let key := String.ofList (Text.lowerChars (Text.trimChars name))
    let size := sizeText value
    let read := Number.readNat? Number.max32 size
    if key = "width" then
      match read with
      | some n => .ok { p with image := ⟨p.image.file, some n, p.image.height⟩ }
      | none => .error (.invalidSize p.image.file "width" (String.ofList size))
    else if key = "height" then
      match read with
      | some n => .ok { p with image := ⟨p.image.file, p.image.width, some n⟩ }
      | none => .error (.invalidSize p.image.file "height" (String.ofList size))
    else .ok { p with ignored := p.ignored ++ [String.ofList token] }

/-- The option tokens of a directive: split at commas, trimmed, without empty ones. -/
def tokens (cs : List Char) : List (List Char) :=
  ((cs.splitOn ',').map Text.trimChars).filter (!·.isEmpty)

/-- The image of a directive without any options. -/
def bare (file : List Char) : Placed :=
  ⟨⟨String.ofList file, none, none⟩, Position.middle, []⟩

def ofDirective (d : Directive) : Except DirectiveError Placed :=
  (tokens d.options).foldlM takeOption (bare d.file)

end Placed

/-! ### Stimuli -/

namespace Stimulus

def empty : Stimulus := ⟨[], Position.middle, []⟩

def addPiece (s : Stimulus) : Piece → Except DirectiveError Stimulus
  | .markup text => .ok { s with segments := s.segments ++ [.markup (String.ofList text)] }
  | .directive d => do
    let placed ← Placed.ofDirective d
    pure ⟨s.segments ++ [.image placed.image], placed.position, s.ignored ++ placed.ignored⟩

/-- Reads a stimulus; the first directive with a bad size makes it fail. -/
def read (raw : String) : Except DirectiveError Stimulus :=
  (Piece.ofChars raw.toList).foldlM addPiece empty

end Stimulus

end TimedTrials
