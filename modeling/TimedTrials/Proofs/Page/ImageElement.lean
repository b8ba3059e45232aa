/-
  TimedTrials/Proofs/Page/ImageElement.lean
  =========================================
  **The element of an image keeps its values inside, and they can be read back.**

  The element has three attributes, each between quotation marks. What stands in them holds no
  quotation marks, apostrophes or brackets (`Contained`): the source and the file name are escaped,
  and the style is made of fixed words and decimal digits. So the quotation marks of the element
  are those around the values, its brackets are the first and the last character of it, and it
  ends nowhere else (`splitOn_element`, `exists_bracketed_element`).
-/
import TimedTrials.Proofs.Number.Numerals
import TimedTrials.Proofs.Page.Entities

namespace TimedTrials.Page

variable {c : Char} {source file style : List Char}

/-! ### Values of attributes -/

/-- A value that ends neither its attribute nor the tag. -/
def Contained (value : List Char) : Prop := ∀ c ∈ ['"', '\'', '<', '>'], c ∉ value

theorem contained_escapeHtml (text : String) : Contained (escapeHtml text).toList := by
  have hspecial : ∀ c ∈ ['"', '\'', '<', '>'], c ∈ specials ∧ c ≠ '&' := by decide
  exact fun c hc => not_mem_escapeHtml (hspecial c hc).1 (hspecial c hc).2 text

/-- The part of a style that gives a size. -/
def sizeStyle (name : String) : Option Nat → String
  | some n => name ++ ":" ++ String.ofList (Number.natDigits n) ++ "px;"
  | none => ""

theorem imageStyle_eq (image : ImageRef) : imageStyle image =
    "max-width:90vw;max-height:90vh;object-fit:contain;" ++ sizeStyle "width" image.width ++
      sizeStyle "height" image.height := by
  obtain ⟨file, width, height⟩ := image
  cases width <;> cases height <;> rfl

theorem contained_sizeStyle {name : String} (hname : Contained name.toList) (size : Option Nat) :
    Contained (sizeStyle name size).toList := by
  have hfixed : ∀ c ∈ ['"', '\'', '<', '>'],
      c.isDigit = false ∧ c ∉ ":".toList ∧ c ∉ "px;".toList := by decide
  intro c hc
  obtain ⟨hdigit, hcolon, hunit⟩ := hfixed c hc
  cases size with
  | none => exact List.not_mem_nil
  | some n =>
    simp only [sizeStyle, String.toList_append, String.toList_ofList, List.mem_append, not_or]
    exact ⟨⟨⟨hname c hc, hcolon⟩, Number.natDigits_ne hdigit⟩, hunit⟩

theorem contained_imageStyle (image : ImageRef) : Contained (imageStyle image).toList := by
  have hfixed : Contained "max-width:90vw;max-height:90vh;object-fit:contain;".toList := by
    unfold Contained
    decide
  have hwidth : Contained "width".toList := by
    unfold Contained
    decide
  have hheight : Contained "height".toList := by
    unfold Contained
    decide
  intro c hc
  simp only [imageStyle_eq, String.toList_append, List.mem_append, not_or]
  exact ⟨⟨hfixed c hc, contained_sizeStyle hwidth _ c hc⟩, contained_sizeStyle hheight _ c hc⟩

/-! ### The element around them -/

/-- An image element with the given values. -/
def element (source file style : List Char) : List Char :=
  "<img src=\"".toList ++ source ++ "\" alt=\"".toList ++ file ++ "\" style=\"".toList ++ style ++
    "\">".toList

/-- Cut at its quotation marks, an element falls into its values and what is between them. -/
theorem splitOn_element (hsource : Contained source) (hfile : Contained file)
    (hstyle : Contained style) : (element source file style).splitOn '"' =
      ["<img src=".toList, source, " alt=".toList, file, " style=".toList, style, ">".toList] := by
  have hparts : element source file style = ['"'].intercalate
      ["<img src=".toList, source, " alt=".toList, file, " style=".toList, style, ">".toList] := by
    unfold element
    simp
  rw [hparts, List.splitOn_intercalate]
  · have hquote : '"' ∈ ['"', '\'', '<', '>'] := by decide
    simp only [List.forall_mem_cons]
    exact ⟨by decide, hsource _ hquote, by decide, hfile _ hquote, by decide, hstyle _ hquote,
      by decide, List.forall_mem_nil _⟩
  · exact List.cons_ne_nil _ _

/-- An element is one tag: its brackets are around all the rest. -/
theorem exists_bracketed_element (hsource : Contained source) (hfile : Contained file)
    (hstyle : Contained style) : ∃ inner,
      element source file style = '<' :: (inner ++ ['>']) ∧ '<' ∉ inner ∧ '>' ∉ inner := by
  have hbrackets : ∀ c ∈ ['<', '>'], c ∈ ['"', '\'', '<', '>'] ∧ c ∉ "img src=\"".toList ∧
      c ∉ "\" alt=\"".toList ∧ c ∉ "\" style=\"".toList ∧ c ∉ ['"'] := by decide
  have hinner : ∀ c ∈ ['<', '>'], c ∉ "img src=\"".toList ++ source ++ "\" alt=\"".toList ++ file ++
      "\" style=\"".toList ++ style ++ ['"'] := by
    intro c hc
    obtain ⟨hvalue, hfirst, hsecond, hthird, hlast⟩ := hbrackets c hc
    simp only [List.mem_append, not_or]
    exact ⟨⟨⟨⟨⟨⟨hfirst, hsource c hvalue⟩, hsecond⟩, hfile c hvalue⟩, hthird⟩, hstyle c hvalue⟩,
      hlast⟩
  refine ⟨_, ?_, hinner '<' (by decide), hinner '>' (by decide)⟩
  unfold element
  simp

/-- **Image elements cannot be broken out of, and lose nothing.** Whatever the file name and the
    base are, the element has three values without quotation marks, apostrophes or brackets in
    them, so that it is cut where it should be. Decoded they are the source and the file name, as
    decoding undoes escaping in any text; the style is the fixed one with the sizes. -/
theorem imageTag_lossless (image : ImageRef) (base : String) :
    (∃ source file style : String,
      imageTag image base = "<img src=\"" ++ source ++ "\" alt=\"" ++ file ++ "\" style=\"" ++
          style ++ "\">" ∧
        Contained source.toList ∧ Contained file.toList ∧ Contained style.toList ∧
        (imageTag image base).toList.splitOn '"' = ["<img src=".toList, source.toList,
          " alt=".toList, file.toList, " style=".toList, style.toList, ">".toList] ∧
        (∃ inner, (imageTag image base).toList = '<' :: (inner ++ ['>']) ∧
          '<' ∉ inner ∧ '>' ∉ inner) ∧
        style = "max-width:90vw;max-height:90vh;object-fit:contain;" ++
          sizeStyle "width" image.width ++ sizeStyle "height" image.height ∧
        Markup.decodeEntities source.toList = (imageSource image base).toList ∧
        Markup.decodeEntities file.toList = image.file.toList) ∧
      ∀ text : String, Markup.decodeEntities (escapeHtml text).toList = text.toList := by
  have htag : imageTag image base = "<img src=\"" ++ escapeHtml (imageSource image base) ++
      "\" alt=\"" ++ escapeHtml image.file ++ "\" style=\"" ++ imageStyle image ++ "\">" := rfl
  have helement : (imageTag image base).toList = element
      (escapeHtml (imageSource image base)).toList (escapeHtml image.file).toList
      (imageStyle image).toList := by
    unfold element
    rw [htag]
    simp only [String.toList_append]
  have hsource := contained_escapeHtml (imageSource image base)
  have hfile := contained_escapeHtml image.file
  have hstyle := contained_imageStyle image
  refine ⟨⟨_, _, _, htag, hsource, hfile, hstyle, ?_, ?_, imageStyle_eq image,
    decodeEntities_escapeHtml _, decodeEntities_escapeHtml _⟩, decodeEntities_escapeHtml⟩
  · rw [helement]
    exact splitOn_element hsource hfile hstyle
  · rw [helement]
    exact exists_bracketed_element hsource hfile hstyle

end TimedTrials.Page
