/-
  TimedTrials/Proofs/Text/Trimming.lean
  =====================================
  **Text around text.**

  Trimming takes blanks off both ends and nothing else (`exists_ends`, `Padded.trimChars_eq`), and a
  text without blanks at its ends it leaves as it is (`trimChars_eq_self`). A search for a pattern
  goes the same way whether or not there is more text behind, as long as that text has nothing
  to do with the pattern: what follows the find is then longer by it and no more
  (`dropHead?_append_tail`, `cut?_append_tail`, `cutAt?_append_tail`).
-/
import Mathlib.Data.List.DropRight
import Mathlib.Data.List.TakeWhile
import TimedTrials.Text.Blank
import TimedTrials.Text.Search

namespace TimedTrials.Text

/-! ### Statements on every character

What is said of every character of a text is decided on these. Without the instances below it may
be decided on all characters there are, of which there are finitely many. -/

instance decidableForallMem (cs : List Char) (p : Char → Prop) [DecidablePred p] :
    Decidable (∀ c ∈ cs, p c) := List.decidableBAll p cs

instance decidableForallMemOption (o : Option Char) (p : Char → Prop) [DecidablePred p] :
    Decidable (∀ c ∈ o, p c) := Option.decidableForallMem o

/-! ### Ends -/

theorem exists_ends (p : Char → Bool) (cs : List Char) :
    ∃ lead tail, cs = lead ++ stripEnds p cs ++ tail ∧ (∀ c ∈ lead, p c = true) ∧
      ∀ c ∈ tail, p c = true := by
  refine ⟨cs.takeWhile p, ((cs.dropWhile p).reverse.takeWhile p).reverse, ?_, ?_, ?_⟩
  · have hrest : stripEnds p cs ++ ((cs.dropWhile p).reverse.takeWhile p).reverse =
        cs.dropWhile p := by
      rw [stripEnds, ← List.reverse_append, List.takeWhile_append_dropWhile, List.reverse_reverse]
    rw [List.append_assoc, hrest, List.takeWhile_append_dropWhile]
  · intro c hc
    exact List.mem_takeWhile_imp hc
  · intro c hc
    exact List.mem_takeWhile_imp (List.mem_reverse.mp hc)

/-! ### Blanks at the ends -/

/-- Neither end is blank. -/
structure Unblanked (cs : List Char) : Prop where
  head : ∀ c ∈ cs.head?, isBlank c = false
  last : ∀ c ∈ cs.getLast?, isBlank c = false

theorem unblanked_cons {c : Char} {cs : List Char} (hc : isBlank c = false)
    (h : ∀ d ∈ cs.getLast?, isBlank d = false) : Unblanked (c :: cs) := by
  constructor
  · rintro d ⟨⟩
    exact hc
  · rw [List.getLast?_cons]
    rintro d ⟨⟩
    cases hlast : cs.getLast? with
    | none => exact hc
    | some last => exact h last hlast

theorem head_dropWhile {p : Char → Bool} (cs : List Char) :
    ∀ c ∈ (cs.dropWhile p).head?, p c = false := by
  intro c hc
  have hnot := List.head?_dropWhile_not p cs
  rw [Option.mem_def.mp hc] at hnot
  simpa using hnot

theorem dropWhile_eq_self {p : Char → Bool} {cs : List Char} (h : ∀ c ∈ cs.head?, p c = false) :
    cs.dropWhile p = cs := by
  cases cs with
  | nil => rfl
  | cons c cs => rw [List.dropWhile_cons_of_neg (by simp [h c rfl])]

theorem stripEnds_of_ends {p : Char → Bool} {cs : List Char} (hhead : ∀ c ∈ cs.head?, p c = false)
    (hlast : ∀ c ∈ cs.getLast?, p c = false) : stripEnds p cs = cs := by
  rw [← List.head?_reverse] at hlast
  rw [stripEnds, dropWhile_eq_self hhead, dropWhile_eq_self hlast, List.reverse_reverse]

/-- Nothing is taken off a text that holds nothing to be taken off. -/
theorem stripEnds_eq_self {p : Char → Bool} {cs : List Char} (h : ∀ c ∈ cs, p c = false) :
    stripEnds p cs = cs :=
  stripEnds_of_ends (fun c hc => h c (List.mem_of_mem_head? hc))
    fun c hc => h c (List.mem_of_mem_getLast? hc)

theorem trimChars_eq_self {cs : List Char} (h : Unblanked cs) : trimChars cs = cs :=
  stripEnds_of_ends h.head h.last

theorem unblanked_trimChars (cs : List Char) : Unblanked (trimChars cs) := by
  constructor
  · obtain ⟨tail, htail⟩ : ∃ tail, trimChars cs ++ tail = cs.dropWhile isBlank :=
      List.rdropWhile_prefix isBlank (cs.dropWhile isBlank)
    have hhead := head_dropWhile (p := isBlank) cs
    rw [← htail] at hhead
    intro c hc
    refine hhead c ?_
    rw [List.head?_append, Option.mem_def.mp hc]
    rfl
  · rw [trimChars, stripEnds, List.getLast?_reverse]
    exact head_dropWhile _

/-- A text with blanks around it. -/
def Padded (word cs : List Char) : Prop :=
  ∃ lead tail, cs = lead ++ word ++ tail ∧ (∀ c ∈ lead, isBlank c = true) ∧
    ∀ c ∈ tail, isBlank c = true

theorem padded_self (cs : List Char) : Padded cs cs :=
  ⟨[], [], by rw [List.nil_append, List.append_nil], List.forall_mem_nil _, List.forall_mem_nil _⟩

theorem padded_trimChars (cs : List Char) : Padded (trimChars cs) cs := exists_ends isBlank cs

/-- Blanks around a text that has none at its ends are taken off, and nothing else. -/
theorem Padded.trimChars_eq {word cs : List Char} (h : Padded word cs) (hword : Unblanked word) :
    trimChars cs = word := by
  obtain ⟨lead, tail, rfl, hlead, htail⟩ := h
  rw [trimChars, stripEnds, List.append_assoc, List.dropWhile_append_of_pos hlead]
  cases word with
  | nil =>
    rw [List.nil_append, List.dropWhile_eq_nil_iff.mpr htail]
    rfl
  | cons c word =>
    have hlast : ∀ d ∈ (c :: word).reverse.head?, isBlank d = false := by
      rw [List.head?_reverse]
      exact hword.last
    rw [List.cons_append, List.dropWhile_cons_of_neg (by simp [hword.head c rfl]),
      ← List.cons_append, List.reverse_append,
      List.dropWhile_append_of_pos fun d hd => htail d (List.mem_reverse.mp hd),
      dropWhile_eq_self hlast, List.reverse_reverse]

theorem Padded.not_mem {c : Char} {word cs : List Char} (h : Padded word cs)
    (hc : isBlank c = false) (hword : c ∉ word) : c ∉ cs := by
  obtain ⟨lead, tail, rfl, hlead, htail⟩ := h
  have hapart : ∀ {blanks : List Char}, (∀ d ∈ blanks, isBlank d = true) → c ∉ blanks :=
    fun hblanks hmem => Bool.false_ne_true (hc.symm.trans (hblanks c hmem))
  simp only [List.mem_append, not_or]
  exact ⟨⟨hapart hlead, hword⟩, hapart htail⟩

theorem Padded.around {word cs lead tail : List Char} (h : Padded word cs)
    (hlead : ∀ c ∈ lead, isBlank c = true) (htail : ∀ c ∈ tail, isBlank c = true) :
    Padded word (lead ++ cs ++ tail) := by
  obtain ⟨lead', tail', rfl, hlead', htail'⟩ := h
  exact ⟨lead ++ lead', tail' ++ tail, by simp only [List.append_assoc],
    List.forall_mem_append.mpr ⟨hlead, hlead'⟩, List.forall_mem_append.mpr ⟨htail', htail⟩⟩

theorem exists_lead (cs : List Char) :
    ∃ lead rest, cs = lead ++ rest ∧ (∀ c ∈ lead, isBlank c = true) ∧
      ∀ c ∈ rest.head?, isBlank c = false :=
  ⟨_, _, List.takeWhile_append_dropWhile.symm, fun _ hc => List.mem_takeWhile_imp hc,
    head_dropWhile cs⟩

theorem exists_tail (cs : List Char) :
    ∃ rest tail, cs = rest ++ tail ∧ (∀ c ∈ tail, isBlank c = true) ∧
      ∀ c ∈ rest.getLast?, isBlank c = false := by
  obtain ⟨lead, rest, hcs, hlead, hrest⟩ := exists_lead cs.reverse
  refine ⟨rest.reverse, lead.reverse, ?_, fun c hc => hlead c (List.mem_reverse.mp hc), ?_⟩
  · rw [← List.reverse_append, ← hcs, List.reverse_reverse]
  · rw [List.getLast?_reverse]
    exact hrest

/-- A text is trimmed on the far sides of any character in it that is no blank. -/
theorem exists_trimChars_cons {x : Char} (hx : isBlank x = false) (before after : List Char) :
    ∃ front back, trimChars (before ++ x :: after) = front ++ x :: back ∧ front <:+ before ∧
      trimChars front = trimChars before ∧ trimChars back = trimChars after := by
  obtain ⟨lead, front, rfl, hlead, hfront⟩ := exists_lead before
  obtain ⟨back, tail, rfl, htail, hback⟩ := exists_tail after
  have hends : Unblanked (front ++ x :: back) := by
    constructor
    · cases front with
      | nil =>
        rintro c ⟨⟩
        exact hx
      | cons d front => exact hfront
    · rw [List.getLast?_append_of_ne_nil _ (List.cons_ne_nil _ _)]
      cases back with
      | nil =>
        rintro c ⟨⟩
        exact hx
      | cons d back => exact hback
  have hpadded : Padded (front ++ x :: back) (lead ++ front ++ x :: (back ++ tail)) :=
    ⟨lead, tail, by simp only [List.append_assoc, List.cons_append], hlead, htail⟩
  refine ⟨front, back, hpadded.trimChars_eq hends, List.suffix_append _ _, ?_, ?_⟩
  · have haround := (padded_trimChars front).around hlead (List.forall_mem_nil _)
    rw [List.append_nil] at haround
    exact (haround.trimChars_eq (unblanked_trimChars front)).symm
  · have haround := (padded_trimChars back).around (List.forall_mem_nil _) htail
    exact (haround.trimChars_eq (unblanked_trimChars back)).symm

/-- Nothing is left of a text that is all blank. -/
theorem trim_eq_empty {s : String} (h : isBlankText s = true) : trim s = "" := by
  have hnone : s.toList.dropWhile isBlank = [] :=
    List.dropWhile_eq_nil_iff.mpr (List.all_eq_true.mp h)
  rw [trim, trimChars, stripEnds, hnone]
  rfl

/-! ### Searching with more text behind -/

variable {pat tail : List Char}

/-- Only the first character behind a text matters: one that the pattern does not hold keeps it
    from going on. -/
theorem dropHead?_append_tail (h : ∀ c ∈ tail.head?, c ∉ pat) (cs : List Char) :
    dropHead? pat (cs ++ tail) = (dropHead? pat cs).map (· ++ tail) := by
  induction pat generalizing cs with
  | nil => rfl
  | cons p ps ih =>
    have hrest : ∀ c ∈ tail.head?, c ∉ ps := fun c hc hmem => h c hc (List.mem_cons_of_mem p hmem)
    cases cs with
    | nil =>
      cases tail with
      | nil => rfl
      | cons c tail =>
        have hne : p ≠ c := fun heq => h c rfl (heq ▸ List.mem_cons_self)
        simp [dropHead?, hne]
    | cons c cs =>
      by_cases heq : p = c
      · simp [dropHead?, heq, ih hrest]
      · simp [dropHead?, heq]

theorem dropHead?_eq_none_of_head (hpat : pat ≠ []) (h : ∀ c ∈ tail.head?, c ∉ pat) :
    dropHead? pat tail = none := by
  obtain ⟨p, ps, rfl⟩ := List.exists_cons_of_ne_nil hpat
  have htail := dropHead?_append_tail h []
  simpa [dropHead?] using htail

/-- A pattern does not stand in a text that has nothing to do with it. -/
theorem cut?_eq_none_of_disjoint (hpat : pat ≠ []) (h : ∀ c ∈ tail, c ∉ pat) :
    cut? pat tail = none := by
  induction tail with
  | nil => simp [cut?, hpat]
  | cons c tail ih =>
    rw [List.forall_mem_cons] at h
    have hhead : dropHead? pat (c :: tail) = none :=
      dropHead?_eq_none_of_head hpat fun d hd => Option.some.inj hd ▸ h.1
    rw [cut?, hhead, ih h.2]
    rfl

theorem cut?_append_tail (hpat : pat ≠ []) (h : ∀ c ∈ tail, c ∉ pat) (cs : List Char) :
    cut? pat (cs ++ tail) = (cut? pat cs).map fun p => (p.1, p.2 ++ tail) := by
  induction cs with
  | nil => simp [cut?_eq_none_of_disjoint hpat h, cut?, hpat]
  | cons c cs ih =>
    have hhead := dropHead?_append_tail (fun d hd => h d (List.mem_of_mem_head? hd)) (c :: cs)
    rw [List.cons_append] at hhead
    rw [List.cons_append, cut?, cut?, hhead]
    cases dropHead? pat (c :: cs) with
    | some rest => rfl
    | none => simp [ih, Function.comp_def]

theorem cutAt?_cons_of_true {p : Char → Bool} {c : Char} (h : p c = true) (cs : List Char) :
    cutAt? p (c :: cs) = some ([], c, cs) := by
  simp only [cutAt?, List.dropWhile_cons, List.takeWhile_cons, h, Bool.not_true,
    Bool.false_eq_true, if_false]

theorem cutAt?_cons_of_false {p : Char → Bool} {c : Char} (h : p c = false) (cs : List Char) :
    cutAt? p (c :: cs) = (cutAt? p cs).map fun q => (c :: q.1, q.2) := by
  simp only [cutAt?, List.dropWhile_cons, List.takeWhile_cons, h, Bool.not_false, if_true]
  split <;> rfl

theorem cutAt?_append_tail {p : Char → Bool} (h : ∀ c ∈ tail, p c = false) (cs : List Char) :
    cutAt? p (cs ++ tail) = (cutAt? p cs).map fun q => (q.1, q.2.1, q.2.2 ++ tail) := by
  induction cs with
  | nil =>
    have hnone : tail.dropWhile (fun c => !p c) = [] := by
      rw [List.dropWhile_eq_nil_iff]
      intro c hc
      rw [h c hc]
      rfl
    simp [cutAt?, hnone]
  | cons c cs ih =>
    cases hc : p c with
    | true => rw [List.cons_append, cutAt?_cons_of_true hc, cutAt?_cons_of_true hc, Option.map_some]
    | false =>
      rw [List.cons_append, cutAt?_cons_of_false hc, ih, cutAt?_cons_of_false hc, Option.map_map,
        Option.map_map]
      rfl

/-! ### A find stays the first one -/

/-- Text behind it makes no difference to a text that is no shorter than the pattern. -/
theorem dropHead?_append_of_length_le {cs : List Char} (h : pat.length ≤ cs.length)
    (more : List Char) : dropHead? pat (cs ++ more) = (dropHead? pat cs).map (· ++ more) := by
  induction pat generalizing cs with
  | nil => rfl
  | cons p ps ih =>
    cases cs with
    | nil => exact absurd h (by simp)
    | cons c cs =>
      by_cases heq : p = c
      · simp only [List.cons_append, dropHead?, heq, if_true, ih (Nat.le_of_succ_le_succ h)]
      · simp only [List.cons_append, dropHead?, heq, if_false, Option.map_none]

/-- Where a pattern is found first does not depend on what stands behind it. -/
theorem cut?_of_cut? {before after : List Char} (h : cut? pat (before ++ pat ++ after) =
    some (before, after)) (more : List Char) :
    cut? pat (before ++ pat ++ more) = some (before, more) := by
  induction before with
  | nil =>
    cases pat with
    | nil => cases more <;> rfl
    | cons p ps =>
      have hhead := dropHead?_append (p :: ps) more
      rw [List.cons_append] at hhead
      rw [List.nil_append, List.cons_append, cut?, hhead]
  | cons c before ih =>
    have hlength : pat.length ≤ (c :: before ++ pat).length := by
      rw [List.length_append]
      exact Nat.le_add_left _ _
    have hafter := dropHead?_append_of_length_le hlength after
    have hmore := dropHead?_append_of_length_le hlength more
    simp only [List.cons_append] at h hafter hmore ⊢
    rw [cut?, hafter] at h
    cases hhead : dropHead? pat (c :: (before ++ pat)) with
    | some rest =>
      rw [hhead] at h
      simp at h
    | none =>
      rw [hhead] at h
      obtain ⟨⟨found, rest⟩, hfound, hsame⟩ := Option.map_eq_some_iff.mp h
      obtain ⟨rfl, rfl⟩ : found = before ∧ rest = after := by simpa using hsame
      rw [cut?, hmore, hhead, ih hfound]
      rfl

theorem cutAt?_eq_some_iff {p : Char → Bool} {cs before after : List Char} {stop : Char} :
    cutAt? p cs = some (before, stop, after) ↔
      cs = before ++ stop :: after ∧ (∀ c ∈ before, p c = false) ∧ p stop = true := by
  induction cs generalizing before with
  | nil => simp [cutAt?]
  | cons c cs ih =>
    cases hc : p c with
    | true =>
      rw [cutAt?_cons_of_true hc]
      constructor
      · intro h
        cases h
        exact ⟨rfl, List.forall_mem_nil _, hc⟩
      · rintro ⟨hcs, hbefore, _⟩
        cases before with
        | nil =>
          cases hcs
          rfl
        | cons first before =>
          obtain ⟨rfl, _⟩ := List.cons.inj hcs
          cases hc.symm.trans (hbefore c List.mem_cons_self)
    | false =>
      rw [cutAt?_cons_of_false hc, Option.map_eq_some_iff]
      constructor
      · rintro ⟨⟨found, stop, rest⟩, hfound, hsame⟩
        cases hsame
        obtain ⟨rfl, hbefore, hstop⟩ := ih.mp hfound
        exact ⟨rfl, List.forall_mem_cons.mpr ⟨hc, hbefore⟩, hstop⟩
      · rintro ⟨hcs, hbefore, hstop⟩
        cases before with
        | nil =>
          cases hcs
          cases hc.symm.trans hstop
        | cons first before =>
          obtain ⟨rfl, hrest⟩ := List.cons.inj hcs
          exact ⟨_, ih.mpr ⟨hrest, (List.forall_mem_cons.mp hbefore).2, hstop⟩, rfl⟩

/-- A cut at a character is made where it stands first. -/
theorem cutAt?_beq_eq_some_iff {x stop : Char} {cs before after : List Char} :
    cutAt? (· == x) cs = some (before, stop, after) ↔
      cs = before ++ x :: after ∧ x ∉ before ∧ stop = x := by
  have hnot : (∀ c ∈ before, (c == x) = false) ↔ x ∉ before := by
    simp only [beq_eq_false_iff_ne]
    exact ⟨fun h hmem => h x hmem rfl, fun h c hc heq => h (heq ▸ hc)⟩
  rw [cutAt?_eq_some_iff, hnot, beq_iff_eq]
  constructor
  · rintro ⟨hcs, hbefore, rfl⟩
    exact ⟨hcs, hbefore, rfl⟩
  · rintro ⟨hcs, hbefore, rfl⟩
    exact ⟨hcs, hbefore, rfl⟩

theorem cutAt?_beq_eq_none_iff {x : Char} {cs : List Char} :
    cutAt? (· == x) cs = none ↔ x ∉ cs := by
  constructor
  · intro hnone hmem
    obtain ⟨before, after, hcs, hbefore⟩ := List.eq_append_cons_of_mem hmem
    rw [cutAt?_beq_eq_some_iff.mpr ⟨hcs, hbefore, rfl⟩] at hnone
    cases hnone
  · intro hnot
    by_contra hsome
    obtain ⟨⟨before, stop, after⟩, hcut⟩ := Option.ne_none_iff_exists'.mp hsome
    obtain ⟨rfl, -, -⟩ := cutAt?_beq_eq_some_iff.mp hcut
    exact hnot (List.mem_append_right _ List.mem_cons_self)

end TimedTrials.Text
