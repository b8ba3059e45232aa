/-
  TimedTrials/Proofs/Picture/Lines.lean
  =====================================
  **The lines of markup lose none of its text.**

  Markup is cut into texts and tags in one way only (`cuts_iff`). The lines are collected chunk by
  chunk, newest first, and that is the same as to collect them character by character, with a line
  break in the place of a tag that breaks the line (`foldl_addChunk`). So they are what stands
  between the tags that break the line, broken at its own line breaks (`collected_lines`).

  To put one blank between the words of a line is to make every run of blanks one blank and to
  take the blanks off the ends (`trimChars_squeeze`). From there it is seen that the characters
  that are no blanks stay, that no others come, and that no two blanks are next to each other.
-/
import Mathlib.Data.List.Chain
import TimedTrials.Picture.Markup
import TimedTrials.Proofs.Text.LetterCase

namespace TimedTrials.Markup

open Text (Padded SameLetters Unblanked isBlank)

variable {c d : Char} {before cs rest tag : List Char} {group pieces : List Chunk}
  {lines : List (List Char)}

/-! ### Texts and tags -/

/-- Markup cut into texts and tags. A tag runs from `<` to the next `>`; a `<` with no `>` behind
    it begins a last text. -/
inductive Cuts : List Char → List Chunk → Prop where
  | text {cs : List Char} (hopen : '<' ∉ cs) : Cuts cs [.text cs]
  | stray {before rest : List Char} (hopen : '<' ∉ before) (hclose : '>' ∉ rest) :
      Cuts (before ++ '<' :: rest) [.text before, .text ('<' :: rest)]
  | tag {before tag rest : List Char} {pieces : List Chunk} (hopen : '<' ∉ before)
      (hclose : '>' ∉ tag) (hrest : Cuts rest pieces) :
      Cuts (before ++ '<' :: (tag ++ '>' :: rest)) (.text before :: .tag tag :: pieces)

theorem chunks_text (hopen : '<' ∉ cs) : chunks cs = [.text cs] := by
  rw [chunks]
  split
  · rfl
  · rename_i hcut
    rw [Text.cutAt?_beq_eq_none_iff.mpr hopen] at hcut
    cases hcut

theorem chunks_stray (hopen : '<' ∉ before) (hclose : '>' ∉ rest) :
    chunks (before ++ '<' :: rest) = [.text before, .text ('<' :: rest)] := by
  have hbracket : Text.cutAt? (· == '<') (before ++ '<' :: rest) = some (before, '<', rest) :=
    Text.cutAt?_beq_eq_some_iff.mpr ⟨rfl, hopen, rfl⟩
  rw [chunks]
  split
  · rename_i hnone
    rw [hbracket] at hnone
    cases hnone
  · rename_i hcut
    rw [hbracket] at hcut
    cases hcut
    split
    · rfl
    · rename_i hcut
      rw [Text.cutAt?_beq_eq_none_iff.mpr hclose] at hcut
      cases hcut

theorem chunks_tag (hopen : '<' ∉ before) (hclose : '>' ∉ tag) :
    chunks (before ++ '<' :: (tag ++ '>' :: rest)) = .text before :: .tag tag :: chunks rest := by
  have hbracket : Text.cutAt? (· == '<') (before ++ '<' :: (tag ++ '>' :: rest)) =
      some (before, '<', tag ++ '>' :: rest) :=
    Text.cutAt?_beq_eq_some_iff.mpr ⟨rfl, hopen, rfl⟩
  have htag : Text.cutAt? (· == '>') (tag ++ '>' :: rest) = some (tag, '>', rest) :=
    Text.cutAt?_beq_eq_some_iff.mpr ⟨rfl, hclose, rfl⟩
  rw [chunks]
  split
  · rename_i hnone
    rw [hbracket] at hnone
    cases hnone
  · rename_i hcut
    rw [hbracket] at hcut
    cases hcut
    split
    · rename_i hnone
      rw [htag] at hnone
      cases hnone
    · rename_i hcut
      rw [htag] at hcut
      cases hcut
      rfl

theorem cuts_chunks (cs : List Char) : Cuts cs (chunks cs) := by
  induction cs using chunks.induct with
  | case1 cs hcut =>
    have hopen := Text.cutAt?_beq_eq_none_iff.mp hcut
    exact chunks_text hopen ▸ .text hopen
  | case2 cs before stop rest hcut hnone =>
    obtain ⟨rfl, hopen, -⟩ := Text.cutAt?_beq_eq_some_iff.mp hcut
    have hclose := Text.cutAt?_beq_eq_none_iff.mp hnone
    exact chunks_stray hopen hclose ▸ .stray hopen hclose
  | case3 cs before stop rest hcut tag stop' rest' htag hlength ih =>
    obtain ⟨rfl, hopen, -⟩ := Text.cutAt?_beq_eq_some_iff.mp hcut
    obtain ⟨rfl, hclose, -⟩ := Text.cutAt?_beq_eq_some_iff.mp htag
    exact chunks_tag hopen hclose ▸ .tag hopen hclose ih

/-- **Markup is cut in one way**, whatever brackets there are in it. -/
theorem cuts_iff : Cuts cs pieces ↔ pieces = chunks cs := by
  constructor
  · intro h
    induction h with
    | text hopen => rw [chunks_text hopen]
    | stray hopen hclose => rw [chunks_stray hopen hclose]
    | tag hopen hclose _ ih => rw [chunks_tag hopen hclose, ih]
  · rintro rfl
    exact cuts_chunks cs

/-! ### Words -/

theorem words_cons_of_blank (h : isBlank c = true) (cs : List Char) : words (c :: cs) = words cs := by
  rw [words, List.splitOnP_cons_eq_if_modifyHead, if_pos h]
  rfl

theorem words_eq_nil (h : ∀ c ∈ cs, isBlank c = true) : words cs = [] := by
  induction cs with
  | nil => rfl
  | cons c cs ih =>
    rw [List.forall_mem_cons] at h
    rw [words_cons_of_blank h.1, ih h.2]

/-- The first word of a text. -/
theorem words_append {lead word : List Char} (hlead : ∀ c ∈ lead, isBlank c = true)
    (hne : word ≠ []) (hword : ∀ c ∈ word, isBlank c = false)
    (hrest : ∀ c ∈ rest.head?, isBlank c = true) :
    words (lead ++ word ++ rest) = word :: words rest := by
  induction lead with
  | nil =>
    cases rest with
    | nil => simp [words, List.splitOnP_eq_singleton hword, hne]
    | cons d rest =>
      rw [List.nil_append, words_cons_of_blank (hrest d rfl), words,
        List.splitOnP_append_cons_of_forall_mem hword d (hrest d rfl),
        List.filter_cons_of_pos (by simpa using hne), words]
  | cons c lead ih =>
    rw [List.forall_mem_cons] at hlead
    rw [List.cons_append, List.cons_append, words_cons_of_blank hlead.1, ih hlead.2]

theorem words_cons_of_head (hc : isBlank c = false) (h : ∀ d ∈ cs.head?, isBlank d = true) :
    words (c :: cs) = [c] :: words cs :=
  words_append (List.forall_mem_nil _) (List.cons_ne_nil _ _) (List.forall_mem_singleton.mpr hc) h

theorem words_cons_cons (hc : isBlank c = false) (hd : isBlank d = false) (cs : List Char) :
    ∃ word more, words (d :: cs) = (d :: word) :: more ∧
      words (c :: d :: cs) = (c :: d :: word) :: more := by
  obtain ⟨word, more, hsplit⟩ := List.exists_cons_of_ne_nil (List.splitOnP_ne_nil isBlank cs)
  refine ⟨word, more.filter (!·.isEmpty), ?_, ?_⟩
  · simp [words, List.splitOnP_cons_eq_if_modifyHead, hd, hsplit]
  · simp [words, List.splitOnP_cons_eq_if_modifyHead, hc, hd, hsplit]

/-! ### Tags that break the line -/

theorem isBlank_map_lowerAsciiChar {b : Bool} (h : ∀ c ∈ cs, isBlank c = b) :
    ∀ c ∈ cs.map Text.lowerAsciiChar, isBlank c = b := by
  rw [List.forall_mem_map]
  intro c hc
  rw [Text.isBlank_lowerAsciiChar]
  exact h c hc

theorem lineBreaks_plain : ∀ name ∈ lineBreaks,
    name.toList.map Text.lowerAsciiChar = name.toList ∧ name.toList ≠ [] ∧
      ∀ c ∈ name.toList, isBlank c = false := by decide

/-- Only the first word of a tag tells whether it breaks the line. -/
theorem breaksLine_append {lead word : List Char} (hlead : ∀ c ∈ lead, isBlank c = true)
    (hne : word ≠ []) (hword : ∀ c ∈ word, isBlank c = false)
    (hrest : ∀ c ∈ rest.head?, isBlank c = true) :
    breaksLine (lead ++ word ++ rest) = true ↔
      ∃ name ∈ lineBreaks, SameLetters word name.toList := by
  have hrest' : ∀ c ∈ (rest.map Text.lowerAsciiChar).head?, isBlank c = true := by
    rw [List.head?_map]
    intro c hc
    obtain ⟨d, hd, rfl⟩ := Option.map_eq_some_iff.mp hc
    rw [Text.isBlank_lowerAsciiChar]
    exact hrest d hd
  have hwords : words ((lead ++ word ++ rest).map Text.lowerAsciiChar) =
      word.map Text.lowerAsciiChar :: words (rest.map Text.lowerAsciiChar) := by
    rw [List.map_append, List.map_append]
    exact words_append (isBlank_map_lowerAsciiChar hlead) (mt List.map_eq_nil_iff.mp hne)
      (isBlank_map_lowerAsciiChar hword) hrest'
  rw [breaksLine, hwords]
  simp only [List.contains_iff_mem]
  constructor
  · intro hmem
    refine ⟨_, hmem, ?_⟩
    rw [SameLetters, (lineBreaks_plain _ hmem).1, String.toList_ofList]
  · rintro ⟨name, hname, hsame⟩
    rw [hsame, (lineBreaks_plain name hname).1, String.ofList_toList]
    exact hname

/-- The first word of a tag is the name of a line break, in any case of its letters. -/
def NamesBreak (tag : List Char) : Prop :=
  ∃ lead word rest, tag = lead ++ word ++ rest ∧ (∀ c ∈ lead, isBlank c = true) ∧
    (∀ c ∈ rest.head?, isBlank c = true) ∧ ∃ name ∈ lineBreaks, SameLetters word name.toList

/-- **A tag breaks the line** just when it begins with the name of a line break. -/
theorem breaksLine_iff : breaksLine tag = true ↔ NamesBreak tag := by
  constructor
  · intro h
    obtain ⟨lead, body, rfl, hlead, hbody⟩ := Text.exists_lead tag
    have hrest : ∀ c ∈ (body.dropWhile (!isBlank ·)).head?, isBlank c = true := by
      simpa using Text.head_dropWhile (p := (!isBlank ·)) body
    have hword : ∀ c ∈ body.takeWhile (!isBlank ·), isBlank c = false := fun c hc => by
      simpa using List.mem_takeWhile_imp hc
    have htag : lead ++ body = lead ++ body.takeWhile (!isBlank ·) ++ body.dropWhile (!isBlank ·) := by
      rw [List.append_assoc, List.takeWhile_append_dropWhile]
    cases body with
    | nil =>
      rw [List.append_nil, breaksLine, words_eq_nil (isBlank_map_lowerAsciiChar hlead)] at h
      exact absurd h Bool.false_ne_true
    | cons c body =>
      have hne : (c :: body).takeWhile (!isBlank ·) ≠ [] := by
        rw [List.takeWhile_cons_of_pos (by rw [hbody c rfl]; rfl)]
        exact List.cons_ne_nil _ _
      rw [htag, breaksLine_append hlead hne hword hrest] at h
      exact ⟨lead, _, _, htag, hlead, hrest, h⟩
  · rintro ⟨lead, word, rest, rfl, hlead, hrest, name, hname, hsame⟩
    obtain ⟨hsmall, hne, hplain⟩ := lineBreaks_plain name hname
    have hlowered : word.map Text.lowerAsciiChar = name.toList := hsame.trans hsmall
    have hword : ∀ c ∈ word, isBlank c = false := by
      intro c hc
      rw [← Text.isBlank_lowerAsciiChar]
      exact hplain _ (hlowered ▸ List.mem_map_of_mem hc)
    have hne' : word ≠ [] := by
      rintro rfl
      exact hne hlowered.symm
    exact (breaksLine_append hlead hne' hword hrest).mpr ⟨name, hname, hsame⟩

/-! ### What stands between line breaks -/

namespace Chunk

/-- The text of a chunk; a tag has none. -/
def decoded : Chunk → List Char
  | .text cs => decodeEntities cs
  | .tag _ => []

/-- Whether it is a tag that breaks the line. -/
def breaks : Chunk → Bool
  | .text _ => false
  | .tag tag => breaksLine tag

/-- A chunk as text, with a line break for a tag that breaks the line. -/
def shown (piece : Chunk) : List Char := if piece.breaks then ['\n'] else piece.decoded

end Chunk

/-- The texts between the tags that break the line, joined across other tags and broken at their
    own line breaks. -/
def brokenLines (pieces : List Chunk) : List (List Char) :=
  (pieces.splitOnP Chunk.breaks).flatMap fun group => (group.flatMap Chunk.decoded).splitOn '\n'

theorem flatMap_shown (h : ∀ piece ∈ group, piece.breaks = false) :
    group.flatMap Chunk.shown = group.flatMap Chunk.decoded := by
  refine List.flatMap_congr fun piece hpiece => ?_
  rw [Chunk.shown, h piece hpiece]
  rfl

/-- Line breaks in the place of tags break the text where the tags do. -/
theorem splitOn_flatMap_shown (pieces : List Chunk) :
    (pieces.flatMap Chunk.shown).splitOn '\n' = brokenLines pieces := by
  -- the chunks since the last break are carried along
  suffices h : ∀ group : List Chunk, (∀ piece ∈ group, piece.breaks = false) →
      (group.flatMap Chunk.shown ++ pieces.flatMap Chunk.shown).splitOn '\n' =
        brokenLines (group ++ pieces) from h [] (List.forall_mem_nil _)
  induction pieces with
  | nil =>
    intro group hgroup
    rw [List.flatMap_nil, List.append_nil, List.append_nil, brokenLines,
      List.splitOnP_eq_singleton hgroup, List.flatMap_singleton, flatMap_shown hgroup]
  | cons piece pieces ih =>
    intro group hgroup
    cases hbreaks : piece.breaks with
    | true =>
      have hshown : piece.shown = ['\n'] := if_pos hbreaks
      rw [List.flatMap_cons, hshown, List.singleton_append, List.splitOn_append_cons_self,
        flatMap_shown hgroup, brokenLines,
        List.splitOnP_append_cons_of_forall_mem hgroup piece hbreaks, List.flatMap_cons]
      exact congrArg _ (ih [] (List.forall_mem_nil _))
    | false =>
      have hmore : ∀ other ∈ group ++ [piece], other.breaks = false :=
        List.forall_mem_append.mpr ⟨hgroup, List.forall_mem_singleton.mpr hbreaks⟩
      have hstep := ih (group ++ [piece]) hmore
      rwa [List.flatMap_append, List.flatMap_singleton, List.append_assoc, List.append_assoc,
        ← List.flatMap_cons, List.singleton_append] at hstep

/-! ### How the lines are collected -/

/-- Adds a character to lines that stand newest first. -/
def addChar (lines : List (List Char)) (c : Char) : List (List Char) :=
  if c = '\n' then [] :: lines else lines.modifyHead (· ++ [c])

/-- Character by character a text is broken into its lines. -/
theorem foldl_addChar (line : List Char) (lines : List (List Char)) (cs : List Char) :
    cs.foldl addChar (line :: lines) =
      ((cs.splitOn '\n').modifyHead (line ++ ·)).reverse ++ lines := by
  induction cs generalizing line lines with
  | nil => simp
  | cons c cs ih =>
    obtain ⟨first, more, hsplit⟩ := List.exists_cons_of_ne_nil (List.splitOn_ne_nil '\n' cs)
    rw [List.foldl_cons, addChar, List.splitOn_cons_eq_if_modifyHead]
    by_cases hc : c = '\n'
    · rw [if_pos hc, if_pos (beq_iff_eq.mpr hc), ih, hsplit]
      simp
    · rw [if_neg hc, if_neg (mt beq_iff_eq.mp hc), List.modifyHead_cons, ih, hsplit]
      simp

theorem addText_eq_foldl (line : List Char) (lines : List (List Char)) (cs : List Char) :
    addText (line :: lines) cs = (decodeEntities cs).foldl addChar (line :: lines) := by
  obtain ⟨first, more, hsplit⟩ :=
    List.exists_cons_of_ne_nil (List.splitOn_ne_nil '\n' (decodeEntities cs))
  rw [foldl_addChar, hsplit]
  simp [addText, hsplit]

theorem addChunk_eq_foldl (line : List Char) (lines : List (List Char)) (piece : Chunk) :
    addChunk (line :: lines) piece = piece.shown.foldl addChar (line :: lines) := by
  cases piece with
  | text cs => exact addText_eq_foldl line lines cs
  | tag tag =>
    cases hbreaks : breaksLine tag <;> simp [addChunk, Chunk.shown, Chunk.breaks, Chunk.decoded,
      hbreaks, addChar]

/-- **Chunk by chunk the lines are the same as character by character.** -/
theorem foldl_addChunk (line : List Char) (lines : List (List Char)) (pieces : List Chunk) :
    pieces.foldl addChunk (line :: lines) =
      (pieces.flatMap Chunk.shown).foldl addChar (line :: lines) := by
  induction pieces generalizing line lines with
  | nil => rfl
  | cons piece pieces ih =>
    have hne : piece.shown.foldl addChar (line :: lines) ≠ [] := by
      rw [foldl_addChar]
      simp
    obtain ⟨line', lines', hlines⟩ := List.exists_cons_of_ne_nil hne
    rw [List.foldl_cons, addChunk_eq_foldl, hlines, ih, List.flatMap_cons, List.foldl_append, hlines]

/-- The lines that are collected are what stands between line breaks. -/
theorem collected_lines (pieces : List Chunk) :
    (pieces.foldl addChunk [[]]).reverse = brokenLines pieces := by
  rw [foldl_addChunk, foldl_addChar, List.append_nil, List.reverse_reverse,
    splitOn_flatMap_shown]
  exact congrFun List.modifyHead_id _

/-! ### Runs of blanks -/

/-- Every run of blanks made one blank. -/
def squeeze : List Char → List Char
  | [] => []
  | c :: cs =>
    if isBlank c then
      if cs.head?.any isBlank then squeeze cs else ' ' :: squeeze cs
    else c :: squeeze cs

theorem collapse_cons_of_blank (h : isBlank c = true) (cs : List Char) :
    collapse (c :: cs) = collapse cs := by
  rw [collapse, words_cons_of_blank h, collapse]

theorem collapse_eq_nil_iff : collapse cs = [] ↔ words cs = [] := by
  rw [collapse]
  cases hwords : words cs with
  | nil => exact iff_of_true rfl rfl
  | cons word more =>
    have hword : word ≠ [] := by
      have hmem : word ∈ words cs := hwords ▸ List.mem_cons_self
      simpa using (List.mem_filter.mp hmem).2
    cases more <;> simp [hword]

theorem collapse_cons_of_head (hc : isBlank c = false) (h : ∀ d ∈ cs.head?, isBlank d = true) :
    collapse (c :: cs) = c :: if collapse cs = [] then [] else ' ' :: collapse cs := by
  rw [collapse, words_cons_of_head hc h]
  by_cases hnone : collapse cs = []
  · rw [if_pos hnone, collapse_eq_nil_iff.mp hnone]
    rfl
  · obtain ⟨word, more, hwords⟩ := List.exists_cons_of_ne_nil (mt collapse_eq_nil_iff.mpr hnone)
    rw [if_neg hnone, collapse, hwords, List.intercalate_cons_cons]
    rfl

theorem collapse_cons_cons (hc : isBlank c = false) (hd : isBlank d = false) (cs : List Char) :
    collapse (c :: d :: cs) = c :: collapse (d :: cs) := by
  obtain ⟨word, more, hwords, hwords'⟩ := words_cons_cons hc hd cs
  rw [collapse, hwords', collapse, hwords]
  cases more with
  | nil => simp
  | cons next more => simp

/-- The words of a text with single blanks between them are the text with its runs of blanks
    squeezed, up to the one at its head and the one at its end. -/
theorem exists_squeeze_eq (cs : List Char) :
    Unblanked (collapse cs) ∧ ∃ tail, (∀ c ∈ tail, isBlank c = true) ∧
      squeeze cs = (if cs.head?.any isBlank then [' '] else []) ++ collapse cs ++ tail := by
  induction cs with
  | nil => exact ⟨⟨by decide, by decide⟩, [], List.forall_mem_nil _, rfl⟩
  | cons c cs ih =>
    obtain ⟨hunblanked, tail, htail, hsqueeze⟩ := ih
    cases hc : isBlank c with
    | true =>
      rw [collapse_cons_of_blank hc]
      refine ⟨hunblanked, tail, htail, ?_⟩
      cases hhead : cs.head?.any isBlank <;> simp [squeeze, hc, hhead, hsqueeze]
    | false =>
      have hcons : squeeze (c :: cs) = c :: squeeze cs := by simp [squeeze, hc]
      by_cases hhead : ∀ d ∈ cs.head?, isBlank d = true
      · rw [hcons, collapse_cons_of_head hc hhead, hsqueeze]
        by_cases hnone : collapse cs = []
        · -- what is left of `cs` is blank
          refine ⟨?_, (if cs.head?.any isBlank then [' '] else []) ++ tail,
            List.forall_mem_append.mpr ⟨?_, htail⟩, ?_⟩
          · rw [if_pos hnone]
            exact Text.unblanked_cons hc (by simp)
          · split <;> decide
          · simp [hnone, hc]
        · have hblank : cs.head?.any isBlank = true := by
            cases cs with
            | nil => exact absurd rfl hnone
            | cons d cs => exact hhead d rfl
          refine ⟨?_, tail, htail, ?_⟩
          · rw [if_neg hnone]
            refine Text.unblanked_cons hc ?_
            rw [← List.singleton_append, List.getLast?_append_of_ne_nil _ hnone]
            exact hunblanked.last
          · simp [hnone, hblank, hc]
      · push Not at hhead
        obtain ⟨d, hd, hblank⟩ := hhead
        obtain ⟨rest, rfl⟩ := List.head?_eq_some_iff.mp hd
        rw [ne_eq, Bool.not_eq_true] at hblank
        rw [hcons, collapse_cons_cons hc hblank, hsqueeze]
        exact ⟨Text.unblanked_cons hc hunblanked.last, tail, htail, by simp [hc, hblank]⟩

theorem padded_squeeze (cs : List Char) : Padded (collapse cs) (squeeze cs) := by
  obtain ⟨-, tail, htail, hsqueeze⟩ := exists_squeeze_eq cs
  refine ⟨_, tail, hsqueeze, ?_, htail⟩
  split <;> decide

/-- **One blank between words** is every run of blanks made one blank, and none at the ends. -/
theorem trimChars_squeeze (cs : List Char) : Text.trimChars (squeeze cs) = collapse cs :=
  (padded_squeeze cs).trimChars_eq (exists_squeeze_eq cs).1

/-- A line with one blank between its words. -/
structure Tidy (line : List Char) : Prop where
  nonempty : line ≠ []
  unblanked : Unblanked line
  single : line.IsChain fun a b => ¬ (isBlank a = true ∧ isBlank b = true)
  blank : ∀ c ∈ line, isBlank c = true → c = ' '

theorem isBlank_head?_squeeze (cs : List Char) :
    ∀ d ∈ (squeeze cs).head?, isBlank d = cs.head?.any isBlank := by
  induction cs with
  | nil => simp [squeeze]
  | cons c cs ih =>
    rw [squeeze]
    cases hc : isBlank c with
    | true =>
      cases hhead : cs.head?.any isBlank with
      | true => simpa [hc, hhead] using ih
      | false => simp [hc]; decide
    | false => simp [hc]

theorem isChain_squeeze (cs : List Char) :
    (squeeze cs).IsChain fun a b => ¬ (isBlank a = true ∧ isBlank b = true) := by
  induction cs with
  | nil => exact .nil
  | cons c cs ih =>
    rw [squeeze]
    split
    · cases hhead : cs.head?.any isBlank with
      | true => exact ih
      | false =>
        refine List.isChain_cons.mpr ⟨fun d hd hblank => ?_, ih⟩
        rw [isBlank_head?_squeeze cs d hd, hhead] at hblank
        exact Bool.false_ne_true hblank.2
    · rename_i hc
      exact List.isChain_cons.mpr ⟨fun d _ hblank => hc hblank.1, ih⟩

theorem eq_space_of_mem_squeeze (cs : List Char) :
    ∀ c ∈ squeeze cs, isBlank c = true → c = ' ' := by
  induction cs with
  | nil => exact List.forall_mem_nil _
  | cons c cs ih =>
    rw [squeeze]
    split
    · split
      · exact ih
      · exact List.forall_mem_cons.mpr ⟨fun _ => rfl, ih⟩
    · rename_i hc
      exact List.forall_mem_cons.mpr ⟨fun hblank => absurd hblank hc, ih⟩

theorem tidy_collapse (hne : collapse cs ≠ []) : Tidy (collapse cs) := by
  obtain ⟨lead, tail, hsqueeze, -⟩ := padded_squeeze cs
  have hpart : collapse cs <:+: squeeze cs := ⟨lead, tail, hsqueeze.symm⟩
  exact ⟨hne, (exists_squeeze_eq cs).1, List.IsChain.infix (isChain_squeeze cs) hpart,
    fun c hc => eq_space_of_mem_squeeze cs c (hpart.subset hc)⟩

/-! ### Characters that are no blanks -/

/-- The characters of a text that are no blanks. -/
def inked (cs : List Char) : List Char := cs.filter fun c => !isBlank c

theorem inked_eq_nil (h : ∀ c ∈ cs, isBlank c = true) : inked cs = [] :=
  List.filter_eq_nil_iff.mpr fun c hc => by simp [h c hc]

theorem inked_append (xs ys : List Char) : inked (xs ++ ys) = inked xs ++ inked ys :=
  List.filter_append _ _

theorem inked_flatten (lines : List (List Char)) :
    inked lines.flatten = (lines.map inked).flatten := List.filter_flatten

theorem inked_cons_of_blank (h : isBlank c = true) (cs : List Char) : inked (c :: cs) = inked cs :=
  List.filter_cons_of_neg (by simp [h])

theorem inked_squeeze (cs : List Char) : inked (squeeze cs) = inked cs := by
  induction cs with
  | nil => rfl
  | cons c cs ih =>
    cases hc : isBlank c with
    | true =>
      rw [inked_cons_of_blank hc, squeeze, if_pos hc]
      split
      · exact ih
      · rw [inked_cons_of_blank (by decide), ih]
    | false => simpa [squeeze, inked, hc] using ih

theorem inked_collapse (cs : List Char) : inked (collapse cs) = inked cs := by
  obtain ⟨lead, tail, hsqueeze, hlead, htail⟩ := padded_squeeze cs
  rw [← inked_squeeze cs, hsqueeze, inked_append, inked_append, inked_eq_nil hlead,
    inked_eq_nil htail, List.nil_append, List.append_nil]

/-- Broken into lines a text loses its line breaks only. -/
theorem inked_splitOn (cs : List Char) : inked (cs.splitOn '\n').flatten = inked cs := by
  induction cs with
  | nil => rfl
  | cons c cs ih =>
    obtain ⟨first, more, hsplit⟩ := List.exists_cons_of_ne_nil (List.splitOn_ne_nil '\n' cs)
    rw [hsplit] at ih
    rw [List.splitOn_cons_eq_if_modifyHead, hsplit]
    split
    · rename_i hc
      rw [beq_iff_eq.mp hc, inked_cons_of_blank (by decide)]
      exact ih
    · rw [List.modifyHead_cons, List.flatten_cons, List.cons_append, ← List.flatten_cons,
        ← List.singleton_append, inked_append, ih, ← inked_append, List.singleton_append]

theorem inked_shown (pieces : List Chunk) :
    inked (pieces.flatMap Chunk.shown) = inked (pieces.flatMap Chunk.decoded) := by
  induction pieces with
  | nil => rfl
  | cons piece pieces ih =>
    have hpiece : inked piece.shown = inked piece.decoded := by
      rw [Chunk.shown]
      split
      · cases piece with
        | text cs => contradiction
        | tag tag => rfl
      · rfl
    rw [List.flatMap_cons, inked_append, hpiece, ih, ← inked_append, ← List.flatMap_cons]

/-! ### The lines of markup -/

/-- **Markup shown as lines loses nothing.** It is cut into texts and tags in one way, and a tag
    breaks the line just when it begins with the name of a line break. The lines are the decoded
    texts, joined across tags, broken at line breaks and at the tags that break the line, with
    every run of blanks made one blank, trimmed, and without empty lines. So their characters that
    are no blanks are those of the decoded texts, in the same order, and each line has single
    blanks between its words and none around them. -/
theorem plainLines_lossless (markup : String) : ∃ pieces,
    (∀ other, Cuts markup.toList other ↔ other = pieces) ∧
      (∀ tag, (Chunk.tag tag).breaks = true ↔ NamesBreak tag) ∧
      (plainLines markup).map String.toList =
        ((brokenLines pieces).map fun line => Text.trimChars (squeeze line)).filter (· ≠ []) ∧
      inked ((plainLines markup).flatMap String.toList) =
        inked (pieces.flatMap Chunk.decoded) ∧
      ∀ line ∈ plainLines markup, Tidy line.toList := by
  have hlines : (plainLines markup).map String.toList =
      ((brokenLines (chunks markup.toList)).map collapse).filter (!·.isEmpty) := by
    rw [plainLines, collected_lines, List.map_map]
    exact (List.map_congr_left fun line _ => String.toList_ofList).trans (List.map_id _)
  refine ⟨chunks markup.toList, fun _ => cuts_iff, fun _ => breaksLine_iff, ?_, ?_, ?_⟩
  · rw [hlines]
    simp only [trimChars_squeeze]
    refine List.filter_congr fun line _ => ?_
    cases line <;> rfl
  · rw [List.flatMap_def, hlines, List.flatten_filter_not_isEmpty, inked_flatten, List.map_map,
      ← inked_shown, ← inked_splitOn, splitOn_flatMap_shown, inked_flatten]
    exact congrArg _ (List.map_congr_left fun line _ => inked_collapse line)
  · intro line hline
    have hmem : line.toList ∈ (plainLines markup).map String.toList := List.mem_map_of_mem hline
    rw [hlines, List.mem_filter] at hmem
    obtain ⟨hmem, hne⟩ := hmem
    obtain ⟨broken, -, hbroken⟩ := List.mem_map.mp hmem
    rw [← hbroken] at hne ⊢
    exact tidy_collapse (by simpa using hne)

end TimedTrials.Markup
