/-
  TimedTrials/Proofs/Page/Substitution.lean
  =========================================
  **When filling the slots one after the other is filling them at once.**

  The template has each slot once, and neither the script nor a payload holds a slot. So the three
  replacements come to one simultaneous replacement (`assembled`), but for the title: it is put in
  first, and the two later replacements go over it (`shownTitle`). The page that is wanted, with
  the escaped title, comes out just when the title spells neither of the two later slots; the
  title element then holds the escaped title, and the payload and the script stand in the page
  once (`document_substitution`). With any other title they are put into the title element as
  well (`document_ne_assembled_payloadTitled`).
-/
import TimedTrials.Proofs.Page.Document
import TimedTrials.Proofs.Text.Simultaneous

namespace TimedTrials.Page

open Text

/-! ### What a page should be -/

/-- The slots, each with the text that it gives way to. -/
def slotEntries (title scriptText payload : List Char) : List (List Char × List Char) :=
  [((slot "TITLE").toList, title), ((slot "RUNTIME").toList, scriptText),
    ((slot "PAYLOAD").toList, payload)]

/-- The template with its slots filled at once: with a title, the script and a payload. -/
def assembled (title : String) (p : Payload) : String :=
  String.ofList (replaceEach (slotEntries title.toList script.toList (payloadText p).toList)
    template.toList)

/-- What becomes of the title: the later replacements go over it. -/
def shownTitle (p : Payload) : String :=
  replaceText (slot "PAYLOAD") (payloadText p)
    (replaceText (slot "RUNTIME") script (escapeHtml p.settings.title))

/-- A title spells a slot that is filled after its own. -/
def spellsSlot (title : String) : Bool :=
  contains (slot "RUNTIME").toList title.toList || contains (slot "PAYLOAD").toList title.toList

def titleTag : String := "<title>"

def titleEndTag : String := "</title>"

/-- The text of the first title element of a page. -/
def titleElement? (page : String) : Option String := do
  let (_, rest) ← cut? titleTag.toList page.toList
  let (stretch, _) ← cut? titleEndTag.toList rest
  pure (String.ofList stretch)

/-- A page with the title as it is meant: the title element holds the escaped title and no more,
    and the payload and the script stand in the page once. -/
structure HoldsOnce (page : String) (p : Payload) : Prop where
  title : titleElement? page = some (escapeHtml p.settings.title)
  payload : occurrences (payloadText p).toList page.toList = 1
  script : occurrences script.toList page.toList = 1

variable {cs title title' payload scriptText : List Char}

/-! ### Escaping neither makes a slot nor breaks one -/

theorem isSome_dropHead?_flatMap {f : Char → List Char} {pat : List Char}
    (h : ∀ c, f c = [c] ∨ c ∉ pat ∧ ∃ x xs, f c = x :: xs ∧ x ∉ pat) (cs : List Char) :
    (dropHead? pat (cs.flatMap f)).isSome = (dropHead? pat cs).isSome := by
  induction pat generalizing cs with
  | nil => rfl
  | cons p ps ih =>
    cases cs with
    | nil => rfl
    | cons c cs =>
      have hps : ∀ c, f c = [c] ∨ c ∉ ps ∧ ∃ x xs, f c = x :: xs ∧ x ∉ ps := fun c =>
        (h c).imp_right fun ⟨hc, x, xs, hf, hx⟩ =>
          ⟨List.not_mem_of_not_mem_cons hc, x, xs, hf, List.not_mem_of_not_mem_cons hx⟩
      rw [List.flatMap_cons]
      obtain hf | ⟨hc, x, xs, hf, hx⟩ := h c
      · rw [hf, List.singleton_append, dropHead?, dropHead?]
        split
        · exact ih hps cs
        · rfl
      · rw [List.mem_cons, not_or] at hc hx
        rw [hf, List.cons_append, dropHead?, dropHead?, if_neg (Ne.symm hx.1),
          if_neg (Ne.symm hc.1)]

theorem contains_flatMap {f : Char → List Char} {p : Char} {ps : List Char}
    (h : ∀ c, f c = [c] ∨ c ∉ p :: ps ∧ f c ≠ [] ∧ ∀ x ∈ f c, x ∉ p :: ps) (cs : List Char) :
    contains (p :: ps) (cs.flatMap f) = contains (p :: ps) cs := by
  have hheads : ∀ c, f c = [c] ∨ c ∉ p :: ps ∧ ∃ x xs, f c = x :: xs ∧ x ∉ p :: ps := by
    intro c
    refine (h c).imp_right fun ⟨hc, hne, hmem⟩ => ⟨hc, ?_⟩
    obtain ⟨x, xs, hf⟩ := List.exists_cons_of_ne_nil hne
    exact ⟨x, xs, hf, hmem x (hf ▸ List.mem_cons_self)⟩
  induction cs with
  | nil => rfl
  | cons c cs ih =>
    have hhead := isSome_dropHead?_flatMap hheads (c :: cs)
    rw [contains_cons, List.flatMap_cons]
    obtain hf | ⟨hc, -, hmem⟩ := h c
    · rw [List.flatMap_cons, hf] at hhead
      rw [hf, List.singleton_append, contains_cons, ih]
      exact congrArg (· || _) hhead
    · have hapart : Apart (p :: ps) (f c) := apart_of_first fun hp => hmem p hp List.mem_cons_self
      have hne : p ≠ c := fun heq => hc (heq ▸ List.mem_cons_self)
      rw [hapart.contains_append, ih, dropHead?, if_neg hne]
      rfl

/-- A character that is neither escaped nor used in an entity. -/
def isUnrelated (x : Char) : Bool := specials.all fun c => c != x && !(escapeChar c).contains x

theorem isUnrelated_iff {x : Char} : isUnrelated x = true ↔
    ∀ c ∈ specials, c ≠ x ∧ x ∉ escapeChar c := by
  simp [isUnrelated]

/-- Each character stays alone, or has nothing to do with a pattern that no entity touches. -/
theorem escapeChar_eq_or {pat : List Char} (h : pat.all isUnrelated = true) (c : Char) :
    escapeChar c = [c] ∨ c ∉ pat ∧ escapeChar c ≠ [] ∧ ∀ x ∈ escapeChar c, x ∉ pat := by
  by_cases hc : c ∈ specials
  · have hpat : ∀ x ∈ pat, c ≠ x ∧ x ∉ escapeChar c := fun x hx =>
      isUnrelated_iff.mp (List.all_eq_true.mp h x hx) c hc
    have hne : specials.all fun c => !(escapeChar c).isEmpty := rfl
    have hentity : escapeChar c ≠ [] := by simpa using List.all_eq_true.mp hne c hc
    exact .inr ⟨fun hmem => (hpat c hmem).1 rfl, hentity, fun x hx hmem => (hpat x hmem).2 hx⟩
  · exact .inl (escapeChar_of_not_mem hc)

theorem contains_slot_escapeHtml {name : String} (h : (slot name).toList.all isUnrelated = true)
    (title : String) : contains (slot name).toList (escapeHtml title).toList =
      contains (slot name).toList title.toList := by
  obtain ⟨p, ps, hslot⟩ := List.exists_cons_of_ne_nil (slot_ne_nil name)
  rw [escapeHtml, String.toList_ofList]
  rw [hslot] at h ⊢
  exact contains_flatMap (escapeChar_eq_or h) title.toList

/-! ### The slots filled at once -/

theorem replaceEach_slotEntries (h : Apart ['\x7b', '\x7b'] cs) (rest : List Char) :
    replaceEach (slotEntries title scriptText payload) (cs ++ rest) =
      cs ++ replaceEach (slotEntries title scriptText payload) rest := by
  apply replaceEach_append
  simp only [slotEntries, List.forall_mem_cons]
  exact ⟨apart_slot h _, apart_slot h _, apart_slot h _, List.forall_mem_nil _⟩

theorem apart_payloadMark : Apart ['\x7b', '\x7b'] payloadMark.toList := by
  rw [payloadMark_toList]
  decide

theorem apart_closeTag : Apart ['\x7b', '\x7b'] closeTag.toList := by
  rw [closeTag_toList]
  decide

/-- The names of the slots. -/
def slotNames : List String := ["TITLE", "RUNTIME", "PAYLOAD"]

/-- No slot begins in another one, nor in itself again. -/
theorem occurrences_slot_slot {name name' : String} (hname : name ∈ slotNames)
    (hname' : name' ∈ slotNames) (rest : List Char) :
    occurrences (slot name).toList ((slot name').toList ++ rest) =
      (if name = name' then 1 else 0) + occurrences (slot name).toList rest := by
  have hapart : ∀ name ∈ slotNames, Apart (slot name).toList (slot name).toList.tail ∧
      ∀ name' ∈ slotNames, name = name' ∨ Apart (slot name).toList (slot name').toList := by
    decide
  split
  · rename_i heq
    obtain ⟨c, cs, hslot⟩ := List.exists_cons_of_ne_nil (slot_ne_nil name)
    have htail := (hapart name hname).1
    rw [← heq]
    rw [hslot] at htail ⊢
    rw [occurrences_cons_append]
    exact congrArg (1 + ·) (htail.occurrences rest)
  · rename_i hne
    rw [(((hapart name hname).2 name' hname').resolve_left hne).occurrences, Nat.zero_add]

/-- **The template has each slot once.** -/
theorem occurrences_slot_template {name : String} (hname : name ∈ slotNames) :
    occurrences (slot name).toList template.toList = 1 := by
  have hpass : ∀ {cs : List Char}, Apart ['\x7b', '\x7b'] cs → ∀ rest,
      occurrences (slot name).toList (cs ++ rest) = occurrences (slot name).toList rest :=
    fun h => (apart_slot h name).occurrences
  have hslot : ∀ name' ∈ slotNames, ∀ rest,
      occurrences (slot name).toList ((slot name').toList ++ rest) =
        (if name = name' then 1 else 0) + occurrences (slot name).toList rest :=
    fun name' hname' => occurrences_slot_slot hname hname'
  have hending : occurrences (slot name).toList templateFrame.ending = 0 := by
    simpa [occurrences] using hpass templateFrame.inert_ending.slots []
  rw [template_toList, Frame.filled, hpass templateFrame.inert_beforeTitle.slots,
    hslot "TITLE" (by decide), ← List.cons_append, hpass templateFrame.inert_beforeMark.slots,
    hpass apart_payloadMark, hslot "PAYLOAD" (by decide), hpass apart_closeTag, Frame.behind,
    hpass templateFrame.inert_beforeScript.slots, hslot "RUNTIME" (by decide),
    hpass templateFrame.inert_afterScript.slots, hpass apart_closeTag, hending]
  have hsum : ∀ name ∈ slotNames, (if name = "TITLE" then 1 else 0) +
      ((if name = "PAYLOAD" then 1 else 0) + ((if name = "RUNTIME" then 1 else 0) + 0)) = 1 := by
    decide
  exact hsum name hname

/-- Filling all slots of a page at once puts each text in its place. -/
theorem Frame.replaceEach_filled (F : Frame) (title scriptText payload : List Char) :
    replaceEach (slotEntries title scriptText payload)
        (F.filled (slot "TITLE").toList (slot "PAYLOAD").toList (slot "RUNTIME").toList) =
      F.filled title payload scriptText := by
  have hdiffers : differs (slot "TITLE").toList (slot "RUNTIME").toList = true ∧
      differs (slot "TITLE").toList (slot "PAYLOAD").toList = true ∧
      differs (slot "RUNTIME").toList (slot "PAYLOAD").toList = true := by
    rw [titleSlot_toList, payloadSlot_toList, scriptSlot_toList]
    decide
  have htitle : ∀ rest, replaceEach (slotEntries title scriptText payload)
      ((slot "TITLE").toList ++ rest) =
        title ++ replaceEach (slotEntries title scriptText payload) rest :=
    replaceEach_entry [] [_, _] (slot_ne_nil _) (List.forall_mem_nil _)
  have hscript : ∀ rest, replaceEach (slotEntries title scriptText payload)
      ((slot "RUNTIME").toList ++ rest) =
        scriptText ++ replaceEach (slotEntries title scriptText payload) rest :=
    replaceEach_entry [_] [_] (slot_ne_nil _) (List.forall_mem_singleton.mpr hdiffers.1)
  have hpayload : ∀ rest, replaceEach (slotEntries title scriptText payload)
      ((slot "PAYLOAD").toList ++ rest) =
        payload ++ replaceEach (slotEntries title scriptText payload) rest :=
    replaceEach_entry [_, _] [] (slot_ne_nil _)
      (List.forall_mem_cons.mpr ⟨hdiffers.2.1, List.forall_mem_singleton.mpr hdiffers.2.2⟩)
  have hending : replaceEach (slotEntries title scriptText payload) F.ending = F.ending := by
    simpa [replaceEach, replaceEachFrom] using replaceEach_slotEntries F.inert_ending.slots []
  rw [filled, replaceEach_slotEntries F.inert_beforeTitle.slots, htitle, ← List.cons_append,
    replaceEach_slotEntries F.inert_beforeMark.slots, replaceEach_slotEntries apart_payloadMark,
    hpayload, replaceEach_slotEntries apart_closeTag, behind,
    replaceEach_slotEntries F.inert_beforeScript.slots, hscript,
    replaceEach_slotEntries F.inert_afterScript.slots, replaceEach_slotEntries apart_closeTag,
    hending]
  rfl

/-- The titles of two pages that have everything else in common. -/
theorem Frame.filled_inj (F : Frame) :
    F.filled title payload scriptText = F.filled title' payload scriptText ↔ title = title' := by
  simp [filled]

/-! ### Where the payload and the script stand -/

/-- The fixed parts of a page hold no place where a pattern begins. -/
structure Frame.Excludes (F : Frame) (pat : List Char) : Prop where
  beforeTitle : Apart pat F.beforeTitle
  beforeMark : Apart pat F.beforeMark
  mark : Apart pat payloadMark.toList
  closing : Apart pat closeTag.toList
  beforeScript : Apart pat F.beforeScript
  afterScript : Apart pat F.afterScript
  ending : Apart pat F.ending

namespace Frame

variable {F : Frame} {pat : List Char}

theorem Excludes.longer (h : F.Excludes pat) (more : List Char) : F.Excludes (pat ++ more) where
  beforeTitle := h.beforeTitle.longer more
  beforeMark := h.beforeMark.longer more
  mark := h.mark.longer more
  closing := h.closing.longer more
  beforeScript := h.beforeScript.longer more
  afterScript := h.afterScript.longer more
  ending := h.ending.longer more

/-- What stands in front of the payload is passed over. -/
theorem Excludes.occurrences_filled (h : F.Excludes pat) (htitle : Apart pat (title ++ ['<'])) :
    occurrences pat (F.filled title payload scriptText) =
      occurrences pat (payload ++ (closeTag.toList ++ F.behind scriptText)) := by
  have hsplit : F.filled title payload scriptText = F.beforeTitle ++ ((title ++ ['<']) ++
      (F.beforeMark ++ (payloadMark.toList ++
        (payload ++ (closeTag.toList ++ F.behind scriptText))))) := by
    simp only [filled, List.append_assoc, List.singleton_append]
  rw [hsplit, h.beforeTitle.occurrences, htitle.occurrences, h.beforeMark.occurrences,
    h.mark.occurrences]

theorem Excludes.occurrences_payload (h : F.Excludes payload)
    (htitle : Apart payload (title ++ ['<'])) (hscript : Apart payload scriptText)
    (hne : payload ≠ []) (hx : '<' ∉ payload) :
    occurrences payload (F.filled title payload scriptText) = 1 := by
  obtain ⟨rest, hrest⟩ : ∃ rest, closeTag.toList = '<' :: rest :=
    ⟨_, closeTag_toList⟩
  have hclosing : Apart payload rest := (apart_cons.mp (hrest ▸ h.closing)).2
  have hending : occurrences payload F.ending = 0 := by
    simpa [occurrences] using h.ending.occurrences []
  rw [h.occurrences_filled htitle, hrest, List.cons_append, occurrences_self_stop hne hx,
    hclosing.occurrences, behind, h.beforeScript.occurrences, hscript.occurrences,
    h.afterScript.occurrences, h.closing.occurrences, hending]

theorem Excludes.occurrences_script (h : F.Excludes scriptText)
    (htitle : Apart scriptText (title ++ ['<'])) (hpayload : Apart scriptText (payload ++ ['<']))
    (honce : occurrences scriptText
      (scriptText ++ (F.afterScript ++ (closeTag.toList ++ F.ending))) = 1) :
    occurrences scriptText (F.filled title payload scriptText) = 1 := by
  obtain ⟨rest, hrest⟩ : ∃ rest, closeTag.toList = '<' :: rest :=
    ⟨_, closeTag_toList⟩
  have hclosing : Apart scriptText rest := (apart_cons.mp (hrest ▸ h.closing)).2
  have hsplit : payload ++ (closeTag.toList ++ F.behind scriptText) = (payload ++ ['<']) ++
      (rest ++ F.behind scriptText) := by
    rw [hrest, List.append_assoc, List.singleton_append, List.cons_append]
  rw [h.occurrences_filled htitle, hsplit, hpayload.occurrences, hclosing.occurrences, behind,
    h.beforeScript.occurrences, honce]

end Frame

/-! ### The template and the script -/

theorem apart_styleLines {pat : List Char} (hpat : pat ∈ beginnings) :
    Apart pat (linesText ((templateLines.drop 5).take 13)) := by
  obtain ⟨_, htexts, -, happart⟩ := exists_styleTexts
  exact apart_linesText htexts (happart pat hpat)

theorem excludes_templateFrame {pat : List Char} (hpat : pat ∈ beginnings) :
    templateFrame.Excludes pat := by
  have hparts : ∀ pat ∈ beginnings, Apart pat templateFrame.beforeTitle ∧ Apart pat titleClosing ∧
      Apart pat payloadOpening ∧ Apart pat payloadMark.toList ∧ Apart pat closeTag.toList ∧
      Apart pat templateFrame.beforeScript ∧ Apart pat templateFrame.afterScript ∧
      Apart pat templateFrame.ending := by decide
  obtain ⟨hbefore, htitle, hopening, hmark, hclosing, hscript, hafter, hending⟩ := hparts pat hpat
  exact ⟨hbefore, htitle.append ((apart_styleLines hpat).append hopening), hmark, hclosing,
    hscript, hafter, hending⟩

/-- The script begins no payload and ends no title. -/
theorem apart_script : ∀ pat ∈ [['\x7b', '"'], ['<', '/', 't']], Apart pat script.toList := by
  obtain ⟨_, htexts, -, happart, -⟩ := exists_scriptTexts
  rw [script, toList_join_lines]
  exact fun pat hpat => apart_linesText htexts (happart pat hpat)

/-- The first lines of the script. -/
def scriptHead : List Char := linesText (scriptLines.take 4)

theorem script_toList : script.toList = scriptHead ++ linesText (scriptLines.drop 4) := by
  rw [script, toList_join_lines, scriptHead, ← linesText_append, List.take_append_drop]

theorem scriptHead_facts : scriptHead.take 2 = ['(', 'f'] ∧ Apart scriptHead scriptHead.tail ∧
    (templateFrame.afterScript ++ (closeTag.toList ++ templateFrame.ending)).length <
      scriptHead.length := by
  decide +kernel

/-- A text without angle brackets does not go over into the script at the end of its element. -/
theorem apart_script_stop (h : '>' ∉ cs) : Apart script.toList (cs ++ ['<']) := by
  obtain ⟨_, htexts, -, -, hgreater, hless⟩ := exists_scriptTexts
  rw [← linesText_take_eq htexts] at hgreater hless
  have hopening : Apart (linesText (scriptLines.take 43)) (cs ++ ['<']) :=
    apart_of_missing hgreater h hless
  rw [script, toList_join_lines, ← List.take_append_drop 43 scriptLines, linesText_append]
  exact hopening.longer _

theorem excludes_script : templateFrame.Excludes script.toList := by
  rw [script_toList, ← List.take_append_drop 2 scriptHead, scriptHead_facts.1]
  exact ((excludes_templateFrame (by decide)).longer _).longer _

theorem occurrences_script_ending : occurrences script.toList
    (script.toList ++ (templateFrame.afterScript ++ (closeTag.toList ++ templateFrame.ending))) =
      1 := by
  obtain ⟨hbegin, happart, hshort⟩ := scriptHead_facts
  have hne : scriptHead ≠ [] := by
    rintro hnil
    rw [hnil] at hbegin
    cases hbegin
  rw [script_toList]
  exact occurrences_append_of_short hne happart hshort

/-! ### The payload -/

/-- The first characters of every payload. -/
def payloadHead : List Char := "\x7b\"trials\":[".toList

theorem exists_compactChars_eq (p : Payload) :
    ∃ items rest, p.toJson.compactChars = payloadHead ++ (items ++ ']' :: rest) := by
  have hname : Json.quoted "trials" ++ [':', '['] = payloadHead.tail := by decide
  have hhead : payloadHead = '\x7b' :: payloadHead.tail := by decide
  refine ⟨Json.separated [','] (Json.compactItems (p.trials.map Trial.toJson)),
    ',' :: Json.separated [','] (Json.compactFields [("preload", Json.list Json.str p.preload),
      ("settings", p.settings.toJson)]) ++ ['\x7d'], ?_⟩
  rw [hhead, ← hname]
  simp [Payload.toJson, Json.list, Json.compactChars, Json.compactFields, Json.separated]

theorem payloadText_toList (p : Payload) : (payloadText p).toList = valueText p.toJson :=
  String.toList_ofList

/-- A payload begins like no other part of a page, and is longer than a slot. -/
theorem exists_valueText_eq (p : Payload) : ∃ rest, valueText p.toJson = payloadHead ++ rest ∧
    rest ≠ [] := by
  obtain ⟨items, rest, hchars⟩ := exists_compactChars_eq p
  have hhead : payloadHead.flatMap escapeScriptChar = payloadHead := by decide
  refine ⟨(items ++ ']' :: rest).flatMap escapeScriptChar, ?_, ?_⟩
  · rw [valueText, hchars, List.flatMap_append, hhead]
  · have hclosing : escapeScriptChar ']' = [']'] := by decide
    rw [List.flatMap_append, List.flatMap_cons, hclosing]
    simp

theorem exists_valueText_beginning (p : Payload) :
    ∃ rest, valueText p.toJson = ['\x7b', '"'] ++ rest := by
  obtain ⟨rest, hrest, -⟩ := exists_valueText_eq p
  have hhead : payloadHead = ['\x7b', '"'] ++ payloadHead.drop 2 := by decide
  exact ⟨payloadHead.drop 2 ++ rest, by rw [hrest, ← List.append_assoc, ← hhead]⟩

theorem slot_length_lt_valueText (p : Payload) :
    (slot "PAYLOAD").toList.length < (valueText p.toJson).length := by
  obtain ⟨rest, hrest, hne⟩ := exists_valueText_eq p
  have hpos := List.length_pos_of_ne_nil hne
  have hlengths : (slot "PAYLOAD").toList.length = payloadHead.length := by
    rw [payloadSlot_toList]
    decide
  rw [hrest, List.length_append, hlengths]
  exact Nat.lt_add_of_pos_right hpos

theorem slot_length_lt_script : (slot "RUNTIME").toList.length < script.toList.length := by
  have hlengths : (slot "RUNTIME").toList.length < scriptHead.length := by
    rw [scriptSlot_toList]
    decide +kernel
  rw [script_toList, List.length_append]
  exact Nat.lt_add_right _ hlengths

/-! ### What becomes of a title -/

variable (p : Payload)

theorem shownTitle_toList :
    (shownTitle p).toList = titleText script.toList p.settings.title p.toJson := by
  rw [shownTitle, replaceText, replaceText, String.toList_ofList, String.toList_ofList,
    payloadText_toList, titleText]

/-- Two replacements leave a text as it is if and only if each does. -/
theorem replaceAll_replaceAll_eq_self_iff {pat pat' new new' : List Char} (hpat : pat ≠ [])
    (hlength : pat.length < new.length) (hpat' : pat' ≠ []) (hlength' : pat'.length < new'.length) :
    replaceAll pat' new' (replaceAll pat new cs) = cs ↔
      contains pat cs = false ∧ contains pat' cs = false := by
  constructor
  · intro heq
    have hle : (replaceAll pat new cs).length ≤ cs.length := by
      have hgrows := length_le_replaceFrom hpat' (Nat.le_of_lt hlength') 0 (replaceAll pat new cs)
      rwa [← replaceAll, heq] at hgrows
    have hfirst : contains pat cs = false := by
      rw [← Bool.not_eq_true]
      exact fun hcontains => Nat.not_lt.mpr hle (length_lt_replaceAll hpat hlength hcontains)
    rw [replaceAll_eq_self_of_not_contains hfirst, replaceAll_eq_self_iff hpat' hlength'] at heq
    exact ⟨hfirst, heq⟩
  · rintro ⟨hfirst, hsecond⟩
    rw [replaceAll_eq_self_of_not_contains hfirst, replaceAll_eq_self_of_not_contains hsecond]

/-- A title is shown as it is meant if and only if it spells no slot that is filled later. -/
theorem shownTitle_eq_iff :
    shownTitle p = escapeHtml p.settings.title ↔ spellsSlot p.settings.title = false := by
  have hruntime : contains (slot "RUNTIME").toList (escapeHtml p.settings.title).toList =
      contains (slot "RUNTIME").toList p.settings.title.toList :=
    contains_slot_escapeHtml (by decide) _
  have hpayload : contains (slot "PAYLOAD").toList (escapeHtml p.settings.title).toList =
      contains (slot "PAYLOAD").toList p.settings.title.toList :=
    contains_slot_escapeHtml (by decide) _
  rw [← String.toList_inj, shownTitle_toList, titleText,
    replaceAll_replaceAll_eq_self_iff (slot_ne_nil _) slot_length_lt_script (slot_ne_nil _)
      (slot_length_lt_valueText p), hruntime, hpayload, spellsSlot, Bool.or_eq_false_iff]

/-! ### The page -/

theorem document_toList : (document p).toList =
    templateFrame.filled (shownTitle p).toList (valueText p.toJson) script.toList := by
  rw [document_eq, page_toList, shownTitle_toList]

theorem assembled_toList (title : String) : (assembled title p).toList =
    templateFrame.filled title.toList (valueText p.toJson) script.toList := by
  rw [assembled, String.toList_ofList, template_toList, templateFrame.replaceEach_filled,
    payloadText_toList]

theorem document_eq_assembled_iff (title : String) :
    document p = assembled title p ↔ shownTitle p = title := by
  rw [← String.toList_inj, document_toList, assembled_toList, templateFrame.filled_inj,
    String.toList_inj]

theorem exists_filled_eq (title payload scriptText : List Char) : ∃ after,
    templateFrame.filled title payload scriptText =
      (linesText (templateLines.take 4) ++ "    ".toList) ++
        (titleTag.toList ++ (title ++ (titleEndTag.toList ++ after))) := by
  have htags : titleOpening = "    ".toList ++ titleTag.toList ∧
      '<' :: titleClosing = titleEndTag.toList ++ ['\n'] := by decide
  let after := '\n' :: (linesText ((templateLines.drop 5).take 13) ++ (payloadOpening ++
    (payloadMark.toList ++ (payload ++ (closeTag.toList ++ templateFrame.behind scriptText)))))
  have hbehind : '<' :: (templateFrame.beforeMark ++ (payloadMark.toList ++
      (payload ++ (closeTag.toList ++ templateFrame.behind scriptText)))) =
        titleEndTag.toList ++ after := by
    simp only [templateFrame, after, List.append_assoc]
    rw [← List.cons_append, htags.2, List.append_assoc, List.singleton_append]
  refine ⟨after, ?_⟩
  rw [Frame.filled, hbehind]
  simp only [templateFrame, htags.1, List.append_assoc]

/-- The title element of a page holds what becomes of its title. -/
theorem titleElement?_document : titleElement? (document p) = some (shownTitle p) := by
  have htags : titleTag.toList ≠ [] ∧ titleEndTag.toList ≠ [] ∧
      Apart titleTag.toList (linesText (templateLines.take 4) ++ "    ".toList) ∧
      titleEndTag.toList = ['<', '/', 't'] ++ titleEndTag.toList.drop 3 := by decide
  obtain ⟨htag, hendTag, hbefore, hend⟩ := htags
  have happart : Apart titleEndTag.toList (shownTitle p).toList := by
    obtain ⟨rest, hscript⟩ := exists_script_eq
    have hinert : Inert ('(' :: rest) := hscript ▸ inert_script
    have hbegin : Apart ['<', '/', 't'] ('(' :: rest) := hscript ▸ apart_script _ (by decide)
    rw [shownTitle_toList, hscript, hend]
    exact (apart_titleText hinert _ _ hbegin).longer _
  obtain ⟨after, hparts⟩ :=
    exists_filled_eq (shownTitle p).toList (valueText p.toJson) script.toList
  have hfirst := hbefore.cut?_eq htag ((shownTitle p).toList ++ (titleEndTag.toList ++ after))
  have hnext := happart.cut?_eq hendTag after
  simp only [titleElement?, document_toList, hparts, hfirst, Option.bind_eq_bind, Option.bind_some,
    hnext]
  simp

/-- A page whose title is shown as it is meant holds everything once. -/
theorem holdsOnce_document (h : shownTitle p = escapeHtml p.settings.title) :
    HoldsOnce (document p) p := by
  have htitle : ∀ c ∈ (shownTitle p).toList, c ≠ '<' ∧ c ≠ '>' :=
    h ▸ unbracketed_escapeHtml p.settings.title
  refine ⟨h ▸ titleElement?_document p, ?_, ?_⟩
  · have hquote : '"' ∉ (shownTitle p).toList := h ▸ unquoted_escapeHtml p.settings.title
    have hless : '<' ∉ valueText p.toJson := fun hmem => (harmless_of_mem_escaped hmem).1 rfl
    obtain ⟨rest, hbegin⟩ := exists_valueText_beginning p
    have hne : valueText p.toJson ≠ [] := by simp [hbegin]
    -- a quotation mark follows the first brace, and there is none up to the end of the title
    have hstop : Apart ['\x7b', '"'] ((shownTitle p).toList ++ ['<']) :=
      apart_of_missing (by decide) hquote (by decide)
    have hexcludes := (excludes_templateFrame (by decide : ['\x7b', '"'] ∈ beginnings)).longer rest
    have htitleStop := hstop.longer rest
    have hscript := (apart_script ['\x7b', '"'] (by decide)).longer rest
    rw [← hbegin] at hexcludes htitleStop hscript
    rw [document_toList, payloadText_toList]
    exact hexcludes.occurrences_payload htitleStop hscript hne hless
  · have hgreater : '>' ∉ (shownTitle p).toList := fun hmem => (htitle _ hmem).2 rfl
    have hpayload : '>' ∉ valueText p.toJson := fun hmem => (harmless_of_mem_escaped hmem).2.1 rfl
    rw [document_toList]
    exact excludes_script.occurrences_script (apart_script_stop hgreater)
      (apart_script_stop hpayload) occurrences_script_ending

/-- **The page is the template with its slots filled at once**, each slot of which there is one:
    with the script, with the payload, and with what becomes of the title. That is the escaped
    title, and the page holds everything once, if and only if the title spells no slot that is
    filled later. -/
theorem document_substitution (p : Payload) :
    (∀ name ∈ slotNames, occurrences (slot name).toList template.toList = 1) ∧
    document p = assembled (shownTitle p) p ∧ titleElement? (document p) = some (shownTitle p) ∧
    (document p = assembled (escapeHtml p.settings.title) p ↔
      spellsSlot p.settings.title = false) ∧
    (spellsSlot p.settings.title = false → HoldsOnce (document p) p) := by
  refine ⟨fun name hname => occurrences_slot_template hname, ?_, titleElement?_document p, ?_, ?_⟩
  · exact (document_eq_assembled_iff p _).mpr rfl
  · rw [document_eq_assembled_iff, shownTitle_eq_iff]
  · intro hspells
    exact holdsOnce_document p ((shownTitle_eq_iff p).mpr hspells)

/-- A payload with the slots in its stimulus and its image base. Its title has the slot of the
    title, half of a later one and characters to escape. -/
def slottedPayload : Payload :=
  { trials := [{
      source := ⟨.timed 1 1 "\x7b\x7bRUNTIME\x7d\x7d" 100, 1, .fixed 1, 0⟩
      stimulusHtml := "\x7b\x7bRUNTIME\x7d\x7d"
      position := .middle }]
    preload := []
    settings := { Settings.standard with
      title := "\x7b\x7bTITLE\x7d\x7d & \x7b\x7bPAYLOAD\x7d <\"i\">"
      imageBase := "\x7b\x7bPAYLOAD\x7d\x7d" } }

theorem document_substitution_slottedPayload :
    spellsSlot slottedPayload.settings.title = false ∧
      document slottedPayload =
        assembled (escapeHtml slottedPayload.settings.title) slottedPayload ∧
      HoldsOnce (document slottedPayload) slottedPayload := by
  have hspells : spellsSlot slottedPayload.settings.title = false := by decide
  obtain ⟨-, -, -, hassembled, honce⟩ := document_substitution slottedPayload
  exact ⟨hspells, hassembled.mpr hspells, honce hspells⟩

/-- A payload without trials, of which the title is the slot of the payload. -/
def payloadTitled : Payload :=
  ⟨[], [], { Settings.standard with title := "\x7b\x7bPAYLOAD\x7d\x7d" }⟩

/-- **A title is substituted again.** Where the title spells the slot of the payload, its element
    holds the payload in place of the title. -/
theorem document_ne_assembled_payloadTitled :
    document payloadTitled ≠ assembled (escapeHtml payloadTitled.settings.title) payloadTitled ∧
      titleElement? (document payloadTitled) = some (payloadText payloadTitled) := by
  have hspells : spellsSlot payloadTitled.settings.title = true := by decide
  have hslot : (escapeHtml payloadTitled.settings.title).toList = (slot "PAYLOAD").toList ∧
      contains (slot "RUNTIME").toList (slot "PAYLOAD").toList = false := by decide
  constructor
  · rw [Ne, document_eq_assembled_iff, shownTitle_eq_iff, hspells]
    exact Bool.noConfusion
  · rw [titleElement?_document, Option.some.injEq, ← String.toList_inj, shownTitle_toList,
      titleText, hslot.1, replaceAll_eq_self_of_not_contains hslot.2, replaceAll_slot,
      payloadText_toList]

end TimedTrials.Page
