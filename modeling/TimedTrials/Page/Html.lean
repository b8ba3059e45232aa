/-
  TimedTrials/Page/Html.lean
  ==========================
  **Text and images as elements of a page.**

  Text that goes into an element or an attribute has its five special characters escaped as
  entities. An image becomes an element whose source is its file below the image base.
-/
import TimedTrials.Number.Integer
import TimedTrials.Stimulus.Basic
import TimedTrials.Text.Search

namespace TimedTrials.Page

/-- The written form of a character inside an element or an attribute. -/
def escapeChar (c : Char) : List Char :=
  if c = '&' then "&amp;".toList
  else if c = '<' then "&lt;".toList
  else if c = '>' then "&gt;".toList
  else if c = '"' then "&quot;".toList
  else if c = '\'' then "&#39;".toList
  else [c]

def escapeHtml (s : String) : String := String.ofList (s.toList.flatMap escapeChar)

def withoutSlashes (base : String) : String :=
  String.ofList (base.toList.reverse.dropWhile (· == '/')).reverse

/-- The source of an image: its file below the base, or the file itself when there is none. -/
def imageSource (image : ImageRef) (base : String) : String :=
  let base := withoutSlashes base
  if base.isEmpty then image.file else base ++ "/" ++ image.file

/-- The style of an image: bounded by the viewport, with the sizes it asks for. -/
def imageStyle (image : ImageRef) : String :=
  let size (name : String) : Option Nat → String
    | some n => name ++ ":" ++ String.ofList (Number.natDigits n) ++ "px;"
    | none => ""
  "max-width:90vw;max-height:90vh;object-fit:contain;" ++ size "width" image.width
    ++ size "height" image.height

def imageTag (image : ImageRef) (base : String) : String :=
  "<img src=\"" ++ escapeHtml (imageSource image base) ++ "\" alt=\"" ++ escapeHtml image.file
    ++ "\" style=\"" ++ imageStyle image ++ "\">"

end TimedTrials.Page
