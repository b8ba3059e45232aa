/-
  TimedTrials/Picture/Markup.lean
  ===============================
  **Markup as lines of plain text**, for presenters that draw text only.

  A tag runs from `<` to the next `>`; a `<` without one is text. Tags that begin or end a
  block break the line, others are dropped. In the text between tags the common entities
  are decoded, and line breaks count. At last every line has its runs of blanks made one
  blank, and empty lines are left out.
-/
import TimedTrials.Text.Blank
import TimedTrials.Text.Case
import TimedTrials.Text.Search

namespace TimedTrials.Markup

/-! ### Entities -/

/-- The entities and the characters they stand for; the ampersand comes last, so that what it
    uncovers is not taken for an entity. -/
def entities : List (List Char × List Char) := [
  ("&nbsp;".toList, [' ']), ("&lt;".toList, ['<']), ("&gt;".toList, ['>']),
  ("&quot;".toList, ['"']), ("&#39;".toList, ['\'']), ("&amp;".toList, ['&'])]

/-- Decodes the entities of a text, one kind after the other. -/
def decodeEntities (cs : List Char) : List Char :=
  entities.foldl (fun cs e => Text.replaceAll e.1 e.2 cs) cs

/-! ### Chunks and tags -/

/-- Markup cut at its tags. -/
inductive Chunk where
  | text (cs : List Char)
  | tag (cs : List Char)
deriving DecidableEq, Repr

theorem cutAt?_length {p : Char → Bool} {cs before after : List Char} {c : Char}
    (h : Text.cutAt? p cs = some (before, c, after)) : after.length < cs.length := by
  unfold Text.cutAt? at h
  split at h
  · simp at h
  · rename_i x rest hx
    obtain ⟨_, _, rfl⟩ := by simpa using h
    have := (List.dropWhile_sublist (l := cs) fun c => !p c).length_le
    rw [hx] at this
    simp at this
    omega

def chunks (cs : List Char) : List Chunk :=
  match h : Text.cutAt? (· == '<') cs with
  | none => [.text cs]
  | some (before, _, rest) =>
    match h' : Text.cutAt? (· == '>') rest with
    | none => [.text before, .text ('<' :: rest)]
    | some (tag, _, rest') =>
      have : rest'.length < cs.length := Nat.lt_trans (cutAt?_length h') (cutAt?_length h)
      .text before :: .tag tag :: chunks rest'
termination_by cs.length

def lineBreaks : List String :=
  ["br", "br/", "p", "/p", "div", "/div", "h1", "/h1", "h2", "/h2", "h3", "/h3", "li"]

def words (cs : List Char) : List (List Char) := (cs.splitOnP Text.isBlank).filter (!·.isEmpty)

/-- Whether a tag breaks the line, by its first word in any ASCII case. -/
def breaksLine (tag : List Char) : Bool :=
  match words (tag.map Text.lowerAsciiChar) with
  | name :: _ => lineBreaks.contains (String.ofList name)
  | [] => false

/-! ### Lines -/

/-- Adds a text to lines that stand newest first: it goes on in the newest line, and breaks it
    at its own line breaks. -/
def addText (lines : List (List Char)) (cs : List Char) : List (List Char) :=
  match (decodeEntities cs).splitOn '\n', lines with
  | first :: more, line :: rest => more.reverse ++ (line ++ first) :: rest
  | pieces, lines => pieces.reverse ++ lines

def addChunk (lines : List (List Char)) : Chunk → List (List Char)
  | .text cs => addText lines cs
  | .tag tag => if breaksLine tag then [] :: lines else lines

/-- A line with one blank between its words and none around them. -/
def collapse (cs : List Char) : List Char := [' '].intercalate (words cs)

/-- The lines of text that markup shows. -/
def plainLines (markup : String) : List String :=
  let lines := ((chunks markup.toList).foldl addChunk [[]]).reverse
  ((lines.map collapse).filter (!·.isEmpty)).map String.ofList

end TimedTrials.Markup
