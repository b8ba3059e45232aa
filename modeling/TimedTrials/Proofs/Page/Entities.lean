/-
  TimedTrials/Proofs/Page/Entities.lean
  =====================================
  **What escaped text holds, and that decoding gives it back.**

  Five characters are escaped, each as an entity of its own. Four of them occur in no entity, so
  that none of these is left (`not_mem_escapeHtml`). Decoding replaces one kind of entity after
  the other. What it finds of a kind are the entities that escaping has put there: all of them
  begin with an ampersand and differ behind it, and ampersands of the text itself come back last.
  So decoding undoes escaping (`decodeEntities_escapeHtml`).
-/
import TimedTrials.Page.Html
import TimedTrials.Picture.Markup
import TimedTrials.Proofs.Text.Occurrence

namespace TimedTrials.Page

open Text (Apart)

variable {c x : Char} {left pat : List Char}

/-! ### Characters that are escaped -/

/-- The characters that are escaped, in the order in which their entities are decoded. -/
def specials : List Char := ['<', '>', '"', '\'', '&']

theorem escapeChar_of_not_mem (h : c ∉ specials) : escapeChar c = [c] := by
  simp only [specials, List.mem_cons, List.not_mem_nil, or_false, not_or] at h
  obtain ⟨hless, hgreater, hquote, hapostrophe, hand⟩ := h
  unfold escapeChar
  rw [if_neg hand, if_neg hless, if_neg hgreater, if_neg hquote, if_neg hapostrophe]

/-- Of the escaped characters only the ampersand is in escaped text. -/
theorem not_mem_escapeHtml (hx : x ∈ specials) (hne : x ≠ '&') (text : String) :
    x ∉ (escapeHtml text).toList := by
  have hentities : specials.all fun x => x == '&' ||
      specials.all fun c => !(escapeChar c).contains x := rfl
  have hx' := List.all_eq_true.mp hentities x hx
  rw [Bool.or_eq_true, beq_iff_eq, or_iff_right hne] at hx'
  rw [escapeHtml, String.toList_ofList, List.mem_flatMap]
  rintro ⟨c, -, hmem⟩
  by_cases hc : c ∈ specials
  · have hentity := List.all_eq_true.mp hx' c hc
    simp [hmem] at hentity
  · rw [escapeChar_of_not_mem hc, List.mem_singleton] at hmem
    exact hc (hmem ▸ hx)

theorem unbracketed_escapeHtml (text : String) :
    ∀ c ∈ (escapeHtml text).toList, c ≠ '<' ∧ c ≠ '>' := by
  intro c hc
  constructor
  · rintro rfl
    exact not_mem_escapeHtml (by decide) (by decide) text hc
  · rintro rfl
    exact not_mem_escapeHtml (by decide) (by decide) text hc

theorem unquoted_escapeHtml (text : String) : '"' ∉ (escapeHtml text).toList :=
  not_mem_escapeHtml (by decide) (by decide) text

/-! ### Decoding -/

/-- The written form of a character in a text in which only some are still escaped. -/
def coded (left : List Char) (c : Char) : List Char := if c ∈ left then escapeChar c else [c]

/-- Nothing is decoded of a kind that is not there. -/
theorem replaceAll_coded_of_apart {new : List Char} (hpat : pat.head? = some '&')
    (hamp : '&' ∈ left) (h : left.all fun c => Text.isApart pat (escapeChar c))
    (cs : List Char) :
    Text.replaceAll pat new (cs.flatMap (coded left)) = cs.flatMap (coded left) := by
  obtain ⟨ps, rfl⟩ := List.head?_eq_some_iff.mp hpat
  refine Text.replaceAll_flatMap (List.cons_ne_nil _ _) (fun c => .inr ⟨?_, rfl⟩) cs
  by_cases hc : c ∈ left
  · rw [coded, if_pos hc]
    exact List.all_eq_true.mp h c hc
  · rw [coded, if_neg hc]
    exact Text.apart_of_first fun hmem => hc (List.mem_singleton.mp hmem ▸ hamp)

/-- The entities of one character are decoded while ampersands are still escaped, or at last. -/
theorem replaceAll_coded (hx : (escapeChar x).head? = some '&') (hnew : x ∉ left)
    (hamp : '&' ∈ x :: left)
    (h : left.all fun c => Text.isApart (escapeChar x) (escapeChar c)) (cs : List Char) :
    Text.replaceAll (escapeChar x) [x] (cs.flatMap (coded (x :: left))) =
      cs.flatMap (coded left) := by
  obtain ⟨ps, hentity⟩ := List.head?_eq_some_iff.mp hx
  refine Text.replaceAll_flatMap (hentity ▸ List.cons_ne_nil _ _) (fun c => ?_) cs
  by_cases hc : c = x
  · subst hc
    exact .inl ⟨if_pos List.mem_cons_self, if_neg hnew⟩
  · have hsame : coded (x :: left) c = coded left c :=
      if_congr (by simp [hc]) rfl rfl
    rw [hsame]
    refine .inr ⟨?_, rfl⟩
    by_cases hmem : c ∈ left
    · rw [coded, if_pos hmem]
      exact List.all_eq_true.mp h c hmem
    · rw [coded, if_neg hmem, hentity]
      refine Text.apart_of_first fun hc' => ?_
      rw [← List.mem_singleton.mp hc'] at hc hmem
      exact (List.mem_cons.mp hamp).elim hc hmem

/-- **Decoding undoes escaping**, also of text that looks like entities. -/
theorem decodeEntities_escapeHtml (text : String) :
    Markup.decodeEntities (escapeHtml text).toList = text.toList := by
  have hstart : ∀ c, escapeChar c = coded specials c := by
    intro c
    by_cases hc : c ∈ specials
    · rw [coded, if_pos hc]
    · rw [coded, if_neg hc, escapeChar_of_not_mem hc]
  have hend : ∀ c, coded [] c = [c] := fun c => if_neg List.not_mem_nil
  have hchain : ∀ cs, Markup.decodeEntities cs =
      Text.replaceAll (escapeChar '&') ['&'] (Text.replaceAll (escapeChar '\'') ['\'']
        (Text.replaceAll (escapeChar '"') ['"'] (Text.replaceAll (escapeChar '>') ['>']
          (Text.replaceAll (escapeChar '<') ['<'] (Text.replaceAll "&nbsp;".toList [' '] cs))))) :=
    fun cs => rfl
  rw [escapeHtml, String.toList_ofList, funext hstart, hchain,
    replaceAll_coded_of_apart rfl (by decide) rfl, specials,
    replaceAll_coded rfl (by decide) (by decide) rfl,
    replaceAll_coded rfl (by decide) (by decide) rfl,
    replaceAll_coded rfl (by decide) (by decide) rfl,
    replaceAll_coded rfl (by decide) (by decide) rfl,
    replaceAll_coded rfl (by decide) (by decide) rfl, funext hend]
  exact List.flatMap_singleton' _

end TimedTrials.Page
