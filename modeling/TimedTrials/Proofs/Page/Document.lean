/-
  TimedTrials/Proofs/Page/Document.lean
  =====================================
  **The page holds its payload apart from everything else.**

  The template is a frame for the three texts, and nothing begins in its parts or in the script:
  that is looked up line by line. Whatever the title and the payload then are, the page gives its
  script the payload and closes no further element (`document_isolated`). So pages that are the
  same have the same payload (`toJson_eq_of_document`).
-/
import TimedTrials.Proofs.Json.Reading
import TimedTrials.Proofs.Page.Frame

namespace TimedTrials.Page

open Text

variable {cs : List Char}

/-! ### Lines -/

/-- The text of lines, each with its line break. -/
def linesText (lines : List String) : List Char := lines.flatMap fun line => line.toList ++ ['\n']

theorem toList_join_lines (lines : List String) :
    (String.join (lines.map (· ++ "\n"))).toList = linesText lines := by
  rw [String.toList_join, List.flatMap_map, linesText]
  simp only [String.toList_append]
  rfl

theorem linesText_append (xs ys : List String) :
    linesText (xs ++ ys) = linesText xs ++ linesText ys := List.flatMap_append

theorem map_toList_cons {line : String} {lines : List String} {texts : List (List Char)}
    (hline : line.toList = cs) (hlines : lines.map String.toList = texts) :
    (line :: lines).map String.toList = cs :: texts := by
  rw [List.map_cons, hline, hlines]

/-- Lines are looked at as lists of characters. -/
theorem apart_linesText {pat : List Char} {lines : List String} {texts : List (List Char)}
    (htexts : lines.map String.toList = texts) (h : ∀ cs ∈ texts, Apart pat (cs ++ ['\n'])) :
    Apart pat (linesText lines) := by
  subst htexts
  rw [List.forall_mem_map] at h
  induction lines with
  | nil => rfl
  | cons line lines ih =>
    rw [List.forall_mem_cons] at h
    rw [linesText, List.flatMap_cons]
    exact h.1.append (ih h.2)

theorem inert_linesText {lines : List String} {texts : List (List Char)}
    (htexts : lines.map String.toList = texts) (h : ∀ cs ∈ texts, Inert (cs ++ ['\n'])) :
    Inert (linesText lines) where
  slots := apart_linesText htexts fun cs hcs => (h cs hcs).slots
  mark := apart_linesText htexts fun cs hcs => (h cs hcs).mark
  closing := apart_linesText htexts fun cs hcs => (h cs hcs).closing

theorem linesText_take_eq {lines : List String} {texts : List (List Char)}
    (htexts : lines.map String.toList = texts) (n : Nat) :
    linesText (lines.take n) = (texts.take n).flatMap (· ++ ['\n']) := by
  rw [← htexts, ← List.map_take, List.flatMap_map, linesText]

/-! ### The parts of the template -/

def titleOpening : List Char := "    <title>".toList

/-- The end of the title, without its first character. -/
def titleClosing : List Char := "/title>\n".toList

def payloadOpening : List Char := "    <script id=\"peg-payload\" ".toList

/-- The text of lines of which the fifth holds a title and the nineteenth a script element. -/
theorem linesText_eq {lines : List String} {title rest : List Char}
    (htitle : linesText ((lines.drop 4).take 1) = titleOpening ++ (title ++ '<' :: titleClosing))
    (hrest : linesText (lines.drop 18) = payloadOpening ++ rest) :
    linesText lines = (linesText (lines.take 4) ++ titleOpening) ++ (title ++ '<' ::
      ((titleClosing ++ (linesText ((lines.drop 5).take 13) ++ payloadOpening)) ++ rest)) := by
  have hfifth : lines.drop 5 = (lines.drop 4).drop 1 := by rw [List.drop_drop]
  have hlast : lines.drop 18 = (lines.drop 5).drop 13 := by rw [List.drop_drop]
  have hparts : linesText lines = linesText (lines.take 4) ++ (linesText ((lines.drop 4).take 1) ++
      (linesText ((lines.drop 5).take 13) ++ linesText (lines.drop 18))) := by
    rw [← linesText_append, ← linesText_append, ← linesText_append, hlast, List.take_append_drop,
      hfifth, List.take_append_drop, List.take_append_drop]
  rw [hparts, htitle, hrest]
  simp only [List.append_assoc, List.cons_append]

/-- The first characters of a payload, and those of the script. -/
def beginnings : List (List Char) := [['\x7b', '"'], ['(', 'f']]

set_option maxRecDepth 2000 in
/-- The lines of the style, each given as its characters, hold none of what is searched for. -/
theorem exists_styleTexts : ∃ texts, ((templateLines.drop 5).take 13).map String.toList = texts ∧
    (∀ cs ∈ texts, Inert (cs ++ ['\n'])) ∧
    ∀ pat ∈ beginnings, ∀ cs ∈ texts, Apart pat (cs ++ ['\n']) := by
  unfold templateLines
  simp only [List.drop_succ_cons, List.drop_zero, List.take_succ_cons, List.take_zero]
  apply Exists.intro
  apply And.intro
  · repeat' first
      | apply map_toList_cons String.toList_ofList
      | exact List.map_nil
  · decide +kernel

theorem inert_styleLines : Inert (linesText ((templateLines.drop 5).take 13)) := by
  obtain ⟨_, htexts, hinert, -⟩ := exists_styleTexts
  exact inert_linesText htexts hinert

/-- The template as a frame. -/
def templateFrame : Frame where
  beforeTitle := linesText (templateLines.take 4) ++ titleOpening
  beforeMark := titleClosing ++ (linesText ((templateLines.drop 5).take 13) ++ payloadOpening)
  beforeScript := "\n    <script>\n".toList
  afterScript := "\n    ".toList
  ending := "\n</body>\n</html>\n".toList
  inert_beforeTitle := by decide +kernel
  inert_beforeMark := by
    have hclosing : Inert ('<' :: titleClosing) := by decide +kernel
    have hopening : Inert payloadOpening := by decide +kernel
    exact hclosing.append (inert_styleLines.append hopening)
  inert_beforeScript := by decide +kernel
  inert_afterScript := by decide +kernel
  inert_ending := by decide +kernel

theorem template_toList : template.toList =
    templateFrame.filled (slot "TITLE").toList (slot "PAYLOAD").toList (slot "RUNTIME").toList := by
  have hlines : linesText ((templateLines.drop 4).take 1) =
        titleOpening ++ ((slot "TITLE").toList ++ '<' :: titleClosing) ∧
      linesText (templateLines.drop 18) = payloadOpening ++ (payloadMark.toList ++
        ((slot "PAYLOAD").toList ++ (closeTag.toList ++
          templateFrame.behind (slot "RUNTIME").toList))) := by
    decide +kernel
  exact (toList_join_lines templateLines).trans (linesText_eq hlines.1 hlines.2)

/-! ### The script -/

set_option maxRecDepth 4000 in
/-- The lines of the script hold nothing of what is searched for, begin no payload and end no
    title. The first angle bracket is a closing one, in the last of the first 43 lines. -/
theorem exists_scriptTexts : ∃ texts, scriptLines.map String.toList = texts ∧
    (∀ cs ∈ texts, Inert (cs ++ ['\n'])) ∧
    (∀ pat ∈ [['\x7b', '"'], ['<', '/', 't']], ∀ cs ∈ texts, Apart pat (cs ++ ['\n'])) ∧
    '>' ∈ (texts.take 43).flatMap (· ++ ['\n']) ∧ '<' ∉ (texts.take 43).flatMap (· ++ ['\n']) := by
  unfold scriptLines
  apply Exists.intro
  apply And.intro
  -- each line is given as its characters first, so that no string has to be decoded
  · repeat' first
      | apply map_toList_cons String.toList_ofList
      | exact List.map_nil
  · decide +kernel

theorem inert_script : Inert script.toList := by
  obtain ⟨_, htexts, hinert, -⟩ := exists_scriptTexts
  rw [script, toList_join_lines]
  exact inert_linesText htexts hinert

/-- The script begins with a character that no mark and no slot holds. -/
theorem exists_script_eq : ∃ rest, script.toList = '(' :: rest := by
  have hfirst : "(function () \x7b".toList =
      ['(', 'f', 'u', 'n', 'c', 't', 'i', 'o', 'n', ' ', '(', ')', ' ', '\x7b'] :=
    String.toList_ofList
  rw [script, toList_join_lines, linesText]
  unfold scriptLines
  rw [List.flatMap_cons, hfirst]
  exact ⟨_, rfl⟩

/-! ### Payloads kept apart -/

/-- The page with any title and any value for the script. -/
def page (title : String) (v : Json) : String :=
  let titled := replaceText (slot "TITLE") (escapeHtml title) template
  let scripted := replaceText (slot "RUNTIME") script titled
  replaceText (slot "PAYLOAD") (String.ofList (valueText v)) scripted

theorem document_eq (p : Payload) : document p = page p.settings.title p.toJson := rfl

theorem page_toList (title : String) (v : Json) : (page title v).toList =
    templateFrame.filled (titleText script.toList title v) (valueText v) script.toList := by
  simp only [page, replaceText, String.toList_ofList, template_toList]
  exact templateFrame.filled_slots inert_script title v

/-- A page gives its script a value, in a text that cannot be taken for markup, and closes no
    more and no fewer scripts than the template. -/
structure Isolates (page : String) (v : Json) : Prop where
  embedded : ∃ stretch, embedded? page = some stretch ∧
    (∀ c ∈ stretch.toList, c ≠ '<' ∧ c ≠ '>' ∧ c ≠ '&') ∧ Json.Denotes stretch.toList v ∧
    Json.read? stretch = some v ∧ Json.read? v.compact = some v
  closings : occurrences closeTag.toList page.toList = occurrences closeTag.toList template.toList

theorem isolates_page (title : String) {v : Json} (hv : v.Writable) :
    Isolates (page title v) v := by
  obtain ⟨rest, hrest⟩ := exists_script_eq
  have hscript : Inert ('(' :: rest) := hrest ▸ inert_script
  have hpage := page_toList title v
  rw [hrest] at hpage
  constructor
  · have hescaped : Json.Denotes (valueText v) v := hv.denotes.escaped
    refine ⟨String.ofList (valueText v), templateFrame.embedded?_filled hscript title v hpage,
      ?_, ?_, hescaped.read?_eq, hv.denotes.read?_eq⟩
    · rw [String.toList_ofList]
      intro c hc
      exact harmless_of_mem_escaped hc
    · rw [String.toList_ofList]
      exact hescaped
  · rw [hpage, template_toList, templateFrame.occurrences_filled_slots]
    exact templateFrame.occurrences_filled (apart_closing_titleText hscript title v)
      (apart_closing_valueText v) hscript.closing

theorem isolates_document (p : Payload) : Isolates (document p) p.toJson := by
  rw [document_eq]
  exact isolates_page p.settings.title p.writable

/-- The payload can be read off a page. -/
theorem toJson_eq_of_document {p p' : Payload} (h : document p = document p') :
    p.toJson = p'.toJson := by
  obtain ⟨stretch, hstretch, _, _, hread, _⟩ := (isolates_document p).embedded
  obtain ⟨stretch', hstretch', _, _, hread', _⟩ := (isolates_document p').embedded
  rw [h] at hstretch
  obtain rfl := Option.some.inj (hstretch.symm.trans hstretch')
  exact Option.some.inj (hread.symm.trans hread')

theorem imageBase_eq_of_document {p p' : Payload} (h : document p = document p') :
    p.settings.imageBase = p'.settings.imageBase := by
  have hjson := toJson_eq_of_document h
  simp only [Payload.toJson, Settings.toJson, Json.obj.injEq, List.cons.injEq, Prod.mk.injEq,
    Json.str.injEq, true_and, and_true] at hjson
  obtain ⟨_, _, _, _, _, _, _, hbase⟩ := hjson
  exact hbase

/-- **The page of a payload isolates the payload**, and so does the page of any other value that
    can be written, whatever their titles. -/
theorem document_isolated : (∀ p : Payload, Isolates (document p) p.toJson) ∧
    ∀ (title : String) (v : Json), v.Writable → Isolates (page title v) v := by
  constructor
  · intro p
    rw [document_eq]
    exact isolates_page p.settings.title p.writable
  · intro title v hv
    exact isolates_page title hv

/-- A title with the slots in it, and a value that looks like the end of the element. -/
theorem document_isolated_slotTitle :
    let title := "\x7b\x7bPAYLOAD\x7d\x7d\x7b\x7bRUNTIME\x7d\x7d"
    let v : Json := .obj [("</script>", .str "\\<&")]
    v.Writable ∧ Isolates (page title v) v := by
  have hv : (Json.obj [("</script>", .str "\\<&")]).Writable :=
    .obj (List.forall_mem_singleton.mpr (.str _))
  exact ⟨hv, document_isolated.2 _ _ hv⟩

end TimedTrials.Page
