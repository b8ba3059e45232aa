/-
  TimedTrials/Proofs/Page/Frame.lean
  ==================================
  **A page put together from fixed parts and three texts.**

  The title, the script and the payload are put in one after the other, and each search goes over
  what the earlier ones have put in. A title may well spell the slots of the script and of the
  payload; so these may come to stand in the title as well, as often as the title spells them.
  Nothing that comes of it begins a payload or ends an element: the fixed parts do not (`Inert`),
  no title and no payload has an angle bracket left, and where the script meets a title its first
  character parts the two.

  So the first place that looks like the payload is the payload (`Frame.embedded?_filled`), and
  as many scripts are closed as with any other texts (`Frame.occurrences_filled`).
-/
import TimedTrials.Proofs.Page.Entities
import TimedTrials.Proofs.Page.Escaping

namespace TimedTrials.Page

open Text

/-- What stands in front of the payload. -/
def payloadMark : String := "type=\"application/json\">"

/-- What ends a script element. -/
def closeTag : String := "</script>"

/-- The text that a page gives to its script: from behind the first mark up to the end of the
    element. -/
def embedded? (page : String) : Option String := do
  let (_, rest) ← cut? payloadMark.toList page.toList
  let (stretch, _) ← cut? closeTag.toList rest
  pure (String.ofList stretch)

/-- A value as it stands in a page. -/
def valueText (v : Json) : List Char := v.compactChars.flatMap escapeScriptChar

/-! ### Parts that nothing begins in -/

/-- A text in which no slot, no payload and no end of an element begins. -/
structure Inert (cs : List Char) : Prop where
  slots : Apart ['\x7b', '\x7b'] cs
  mark : Apart payloadMark.toList cs
  closing : Apart closeTag.toList cs

variable {cs ds : List Char}

theorem payloadMark_toList : payloadMark.toList =
    ['t', 'y', 'p', 'e', '=', '"', 'a', 'p', 'p', 'l', 'i', 'c', 'a', 't', 'i', 'o', 'n', '/',
      'j', 's', 'o', 'n', '"', '>'] := String.toList_ofList

theorem closeTag_toList : closeTag.toList = ['<', '/', 's', 'c', 'r', 'i', 'p', 't', '>'] :=
  String.toList_ofList

theorem inert_iff : Inert cs ↔ Apart ['\x7b', '\x7b'] cs ∧
    Apart ['t', 'y', 'p', 'e', '=', '"', 'a', 'p', 'p', 'l', 'i', 'c', 'a', 't', 'i', 'o', 'n', '/',
      'j', 's', 'o', 'n', '"', '>'] cs ∧
    Apart ['<', '/', 's', 'c', 'r', 'i', 'p', 't', '>'] cs := by
  rw [← payloadMark_toList, ← closeTag_toList]
  exact ⟨fun h => ⟨h.slots, h.mark, h.closing⟩, fun h => ⟨h.1, h.2.1, h.2.2⟩⟩

instance (cs : List Char) : Decidable (Inert cs) := decidable_of_iff _ inert_iff.symm

theorem Inert.append (hcs : Inert cs) (hds : Inert ds) : Inert (cs ++ ds) where
  slots := hcs.slots.append hds.slots
  mark := hcs.mark.append hds.mark
  closing := hcs.closing.append hds.closing

theorem Inert.tail {c : Char} (h : Inert (c :: cs)) : Inert cs where
  slots := (apart_cons.mp h.slots).2
  mark := (apart_cons.mp h.mark).2
  closing := (apart_cons.mp h.closing).2

/-- The fixed parts of a page. The part behind the title stands without its first character, the
    `<` of a tag. -/
structure Frame where
  beforeTitle : List Char
  beforeMark : List Char
  beforeScript : List Char
  afterScript : List Char
  ending : List Char
  inert_beforeTitle : Inert beforeTitle
  inert_beforeMark : Inert ('<' :: beforeMark)
  inert_beforeScript : Inert beforeScript
  inert_afterScript : Inert afterScript
  inert_ending : Inert ending

namespace Frame

/-- A page behind the payload. -/
def behind (F : Frame) (script : List Char) : List Char :=
  F.beforeScript ++ (script ++ (F.afterScript ++ (closeTag.toList ++ F.ending)))

/-- A page with a title, a payload and a script. -/
def filled (F : Frame) (title payload script : List Char) : List Char :=
  F.beforeTitle ++ (title ++ '<' :: (F.beforeMark ++
    (payloadMark.toList ++ (payload ++ (closeTag.toList ++ F.behind script)))))

end Frame

/-! ### Filling the slots -/

theorem slot_toList (name : String) :
    (slot name).toList = ['\x7b', '\x7b'] ++ (name.toList ++ ['\x7d', '\x7d']) := by
  rw [slot, String.toList_append, String.toList_append, List.append_assoc]
  exact congrArg (· ++ _) String.toList_ofList

theorem titleSlot_toList : (slot "TITLE").toList =
    ['\x7b', '\x7b', 'T', 'I', 'T', 'L', 'E', '\x7d', '\x7d'] := by simp [slot]

theorem payloadSlot_toList : (slot "PAYLOAD").toList =
    ['\x7b', '\x7b', 'P', 'A', 'Y', 'L', 'O', 'A', 'D', '\x7d', '\x7d'] := by simp [slot]

theorem scriptSlot_toList : (slot "RUNTIME").toList =
    ['\x7b', '\x7b', 'R', 'U', 'N', 'T', 'I', 'M', 'E', '\x7d', '\x7d'] := by simp [slot]

theorem slot_ne_nil (name : String) : (slot name).toList ≠ [] := by
  rw [slot_toList]
  exact List.cons_ne_nil _ _

theorem apart_slot (h : Apart ['\x7b', '\x7b'] cs) (name : String) : Apart (slot name).toList cs := by
  rw [slot_toList]
  exact h.longer _

/-- A part becomes another one when a slot is filled, whatever stands behind it. -/
def Becomes (name : String) (new cs ds : List Char) : Prop :=
  ∀ rest, replaceAll (slot name).toList new (cs ++ rest) =
    ds ++ replaceAll (slot name).toList new rest

variable {name : String} {new : List Char}

theorem becomes_self (name : String) (new : List Char) :
    Becomes name new (slot name).toList new := replaceAll_self (slot_ne_nil name)

theorem becomes_of_apart (h : Apart (slot name).toList cs) : Becomes name new cs cs :=
  h.replaceAll new

theorem replaceAll_slot (name : String) (new : List Char) :
    replaceAll (slot name).toList new (slot name).toList = new := by
  have hself := becomes_self name new []
  rw [List.append_nil] at hself
  rw [hself]
  exact List.append_nil new

/-- Filling a slot goes through a page part by part. -/
theorem Frame.replaceAll_filled (F : Frame) {title payload payload' script script' : List Char}
    (hname : '<' ∉ (slot name).toList) (hpayload : Becomes name new payload payload')
    (hscript : Becomes name new script script') :
    replaceAll (slot name).toList new (F.filled title payload script) =
      F.filled (replaceAll (slot name).toList new title) payload' script' := by
  have hinert : ∀ {cs}, Inert cs → Becomes name new cs cs := fun h =>
    becomes_of_apart (apart_slot h.slots name)
  have hmark : Becomes name new payloadMark.toList payloadMark.toList := by
    rw [payloadMark_toList]
    exact becomes_of_apart (apart_slot (by decide) name)
  have hclosing : Becomes name new closeTag.toList closeTag.toList := by
    rw [closeTag_toList]
    exact becomes_of_apart (apart_slot (by decide) name)
  have hending : replaceAll (slot name).toList new F.ending = F.ending :=
    (apart_slot F.inert_ending.slots name).replaceAll_eq new
  rw [filled, hinert F.inert_beforeTitle, replaceAll_append_cons (slot_ne_nil name) hname,
    hinert F.inert_beforeMark.tail, hmark, hpayload, hclosing, behind, hinert F.inert_beforeScript,
    hscript, hinert F.inert_afterScript, hclosing, hending]
  rfl

/-- What becomes of a title: it may spell the slots that are filled later. -/
def titleText (script : List Char) (title : String) (v : Json) : List Char :=
  replaceAll (slot "PAYLOAD").toList (valueText v)
    (replaceAll (slot "RUNTIME").toList script (escapeHtml title).toList)

/-- All three slots, filled in their order. -/
theorem Frame.filled_slots (F : Frame) {script : List Char} (hscript : Inert script)
    (title : String) (v : Json) :
    replaceAll (slot "PAYLOAD").toList (valueText v) (replaceAll (slot "RUNTIME").toList script
      (replaceAll (slot "TITLE").toList (escapeHtml title).toList
        (F.filled (slot "TITLE").toList (slot "PAYLOAD").toList (slot "RUNTIME").toList))) =
      F.filled (titleText script title v) (valueText v) script := by
  have htitle : '<' ∉ (slot "TITLE").toList ∧
      Apart (slot "TITLE").toList (slot "PAYLOAD").toList ∧
      Apart (slot "TITLE").toList (slot "RUNTIME").toList := by
    rw [titleSlot_toList, payloadSlot_toList, scriptSlot_toList]
    decide
  have hruntime : '<' ∉ (slot "RUNTIME").toList ∧
      Apart (slot "RUNTIME").toList (slot "PAYLOAD").toList := by
    rw [payloadSlot_toList, scriptSlot_toList]
    decide
  have hpayload : '<' ∉ (slot "PAYLOAD").toList := by
    rw [payloadSlot_toList]
    decide
  -- the script is in place by the time the payload is put in, and has no slot for it
  have hkept : Becomes "PAYLOAD" (valueText v) script script :=
    becomes_of_apart (apart_slot hscript.slots _)
  rw [F.replaceAll_filled htitle.1 (becomes_of_apart htitle.2.1) (becomes_of_apart htitle.2.2),
    replaceAll_slot,
    F.replaceAll_filled hruntime.1 (becomes_of_apart hruntime.2) (becomes_self _ _)]
  exact F.replaceAll_filled hpayload (becomes_self _ _) hkept

/-! ### What becomes of a title -/

section Title

variable {rest : List Char} (hscript : Inert ('(' :: rest)) (title : String) (v : Json)

include hscript

/-- A filled title is made of segments without angle brackets, and of the script between them. -/
theorem exists_titleText_eq : ∃ segments, segments ≠ [] ∧
    (∀ segment ∈ segments, ∀ c ∈ segment, c ≠ '<' ∧ c ≠ '>') ∧
      titleText ('(' :: rest) title v = ('(' :: rest).intercalate segments := by
  obtain ⟨segments, hne, hsub, hscripted⟩ :=
    exists_segments (slot "RUNTIME").toList ('(' :: rest) (escapeHtml title).toList
  have hparen : '(' ∉ (slot "PAYLOAD").toList := by
    rw [payloadSlot_toList]
    decide
  have hapart : Apart (slot "PAYLOAD").toList rest := apart_slot hscript.tail.slots "PAYLOAD"
  refine ⟨segments.map (replaceAll (slot "PAYLOAD").toList (valueText v)),
    mt List.map_eq_nil_iff.mp hne, ?_, ?_⟩
  · refine List.forall_mem_map.mpr fun segment hsegment => ?_
    refine forall_mem_replaceAll (fun c hc => ?_) fun c hc => ?_
    · have hharmless := harmless_of_mem_escaped hc
      exact ⟨hharmless.1, hharmless.2.1⟩
    · exact unbracketed_escapeHtml title c (hsub segment hsegment hc)
  · rw [titleText, hscripted]
    exact replaceAll_intercalate (slot_ne_nil _) hparen hapart segments

/-- No title begins a tag that the script does not begin. -/
theorem apart_titleText {ps : List Char} (htag : Apart ('<' :: ps) ('(' :: rest)) :
    Apart ('<' :: ps) (titleText ('(' :: rest) title v) := by
  obtain ⟨segments, hne, hsegments, htitle⟩ := exists_titleText_eq hscript title v
  have happart : ∀ segment ∈ segments, Apart ('<' :: ps) segment := fun segment hsegment =>
    apart_of_first fun hmem => (hsegments segment hsegment _ hmem).1 rfl
  have hfilled : Apart ('<' :: ps) (('(' :: rest).intercalate segments ++ []) := by
    apply apart_intercalate hne
    · intro segment hsegment
      exact (happart segment hsegment).append htag
    · intro segment hsegment
      exact (happart segment hsegment).append (apart_nil _)
  rwa [List.append_nil, ← htitle] at hfilled

/-- No title ends an element. -/
theorem apart_closing_titleText : Apart closeTag.toList (titleText ('(' :: rest) title v) := by
  have htag := hscript.closing
  rw [closeTag_toList] at htag ⊢
  exact apart_titleText hscript title v htag

/-- No title begins a payload, with the end of its element behind it. -/
theorem apart_mark_titleText :
    Apart payloadMark.toList (titleText ('(' :: rest) title v ++ ['<']) := by
  obtain ⟨segments, hne, hsegments, htitle⟩ := exists_titleText_eq hscript title v
  obtain ⟨hgreater, hless, hparen⟩ :
      '>' ∈ payloadMark.toList ∧ '<' ∉ payloadMark.toList ∧ '(' ∉ payloadMark.toList := by
    rw [payloadMark_toList]
    decide
  rw [htitle]
  apply apart_intercalate hne
  · -- the mark ends in a bracket, which it would have to find before the script begins
    intro segment hsegment
    have hfirst := apart_of_missing hgreater
      (fun hmem => (hsegments segment hsegment _ hmem).2 rfl) hparen
    have happart := hfirst.append hscript.tail.mark
    rwa [List.append_assoc, List.singleton_append] at happart
  · intro segment hsegment
    exact apart_of_missing hgreater (fun hmem => (hsegments segment hsegment _ hmem).2 rfl) hless

end Title

/-! ### The payload of a page -/

theorem apart_closing_valueText (v : Json) : Apart closeTag.toList (valueText v) := by
  rw [closeTag_toList]
  exact apart_of_first fun hmem => (harmless_of_mem_escaped hmem).1 rfl

namespace Frame

variable (F : Frame)

/-- **What a page gives to its script is the value**, whatever the title. -/
theorem embedded?_filled {rest : List Char} (hscript : Inert ('(' :: rest)) (title : String)
    (v : Json) {page : String}
    (hpage : page.toList = F.filled (titleText ('(' :: rest) title v) (valueText v) ('(' :: rest)) :
    embedded? page = some (String.ofList (valueText v)) := by
  have hmark : payloadMark.toList ≠ [] := by
    rw [payloadMark_toList]
    exact List.cons_ne_nil _ _
  have hclosing : closeTag.toList ≠ [] := by
    rw [closeTag_toList]
    exact List.cons_ne_nil _ _
  have hbefore : Apart payloadMark.toList (F.beforeTitle ++
      ((titleText ('(' :: rest) title v ++ ['<']) ++ F.beforeMark)) :=
    F.inert_beforeTitle.mark.append
      ((apart_mark_titleText hscript title v).append F.inert_beforeMark.tail.mark)
  have hparts : page.toList =
      (F.beforeTitle ++ ((titleText ('(' :: rest) title v ++ ['<']) ++ F.beforeMark)) ++
        (payloadMark.toList ++ (valueText v ++ (closeTag.toList ++ F.behind ('(' :: rest)))) := by
    simp only [hpage, filled, List.append_assoc, List.cons_append, List.nil_append]
  have hfirst := hbefore.cut?_eq hmark (valueText v ++ (closeTag.toList ++ F.behind ('(' :: rest)))
  have hnext := (apart_closing_valueText v).cut?_eq hclosing (F.behind ('(' :: rest))
  simp only [embedded?, hparts, hfirst, Option.bind_eq_bind, Option.bind_some, hnext]
  rfl

/-- Two scripts are closed, whatever the texts. -/
theorem occurrences_filled {title payload script : List Char}
    (htitle : Apart closeTag.toList title) (hpayload : Apart closeTag.toList payload)
    (hscript : Apart closeTag.toList script) :
    occurrences closeTag.toList (F.filled title payload script) = 2 := by
  have hmark : Apart closeTag.toList payloadMark.toList := by
    rw [closeTag_toList, payloadMark_toList]
    decide
  have hself : ∀ ys, occurrences closeTag.toList (closeTag.toList ++ ys) =
      1 + occurrences closeTag.toList ys := by
    rw [closeTag_toList]
    exact occurrences_self (by decide)
  have hending := F.inert_ending.closing.occurrences []
  rw [List.append_nil] at hending
  rw [filled, F.inert_beforeTitle.closing.occurrences, htitle.occurrences, ← List.cons_append,
    F.inert_beforeMark.closing.occurrences, hmark.occurrences, hpayload.occurrences, hself, behind,
    F.inert_beforeScript.closing.occurrences, hscript.occurrences,
    F.inert_afterScript.closing.occurrences, hself, hending]
  rfl

theorem occurrences_filled_slots : occurrences closeTag.toList
    (F.filled (slot "TITLE").toList (slot "PAYLOAD").toList (slot "RUNTIME").toList) = 2 := by
  have hslots : Apart closeTag.toList (slot "TITLE").toList ∧
      Apart closeTag.toList (slot "PAYLOAD").toList ∧
      Apart closeTag.toList (slot "RUNTIME").toList := by
    rw [closeTag_toList, titleSlot_toList, payloadSlot_toList, scriptSlot_toList]
    decide
  exact F.occurrences_filled hslots.1 hslots.2.1 hslots.2.2

end Frame

end TimedTrials.Page
