/-
  TimedTrials/Proofs/Text/Occurrence.lean
  =======================================
  **Where a pattern stands in a text, and what becomes of it.**

  A text is apart from a pattern when no occurrence begins in it, whatever follows: at every
  place the two differ before the text is over. Searching, replacing and counting all pass over
  such a text, and a text that is put together from parts is apart when its parts are. Whether
  two given texts are apart is decided by looking.

  What is replaced in a text of which nothing is known comes out as the segments between the
  occurrences, with the new text between them (`exists_segments`). A character that the pattern
  does not hold keeps both sides of it from each other (`replaceAll_append_cons`).
-/
import Mathlib.Data.List.Basic
import TimedTrials.Proofs.Text.Trimming

namespace TimedTrials.Text

/-- Two texts differ at some place that both of them have. -/
@[grind =] def differs : List Char → List Char → Bool
  | p :: ps, c :: cs => p != c || differs ps cs
  | _, _ => false

/-- No occurrence of a pattern begins in a text, whatever follows. Most places are settled by
    their first character. -/
@[grind =] def isApart (pat : List Char) : List Char → Bool
  | [] => true
  | c :: cs => (pat.head?.any (· != c) || differs pat (c :: cs)) && isApart pat cs

def Apart (pat cs : List Char) : Prop := isApart pat cs = true

instance (pat cs : List Char) : Decidable (Apart pat cs) := inferInstanceAs (Decidable (_ = true))

/-- At how many places of a text a pattern begins. -/
@[grind =] def occurrences (pat : List Char) : List Char → Nat
  | [] => 0
  | c :: cs => (if (dropHead? pat (c :: cs)).isSome then 1 else 0) + occurrences pat cs

variable {pat new xs ys : List Char} {x z : Char}

/-! ### Texts that differ -/

theorem dropHead?_of_differs (h : differs pat xs = true) (ys : List Char) :
    dropHead? pat (xs ++ ys) = none := by
  induction pat generalizing xs with
  | nil => cases h
  | cons p ps ih =>
    cases xs with
    | nil => cases h
    | cons c xs =>
      by_cases heq : p = c
      · simp only [differs, heq, bne_self_eq_false, Bool.false_or] at h
        simp only [List.cons_append, dropHead?, heq, if_true, ih h]
      · simp only [List.cons_append, dropHead?, heq, if_false]

theorem differs_append_right (h : differs pat xs = true) (ys : List Char) :
    differs pat (xs ++ ys) = true := by
  induction pat generalizing xs with
  | nil => cases h
  | cons p ps ih =>
    cases xs with
    | nil => cases h
    | cons c xs =>
      simp only [differs, Bool.or_eq_true, List.cons_append] at h ⊢
      exact h.imp_right ih

theorem differs_append_left (h : differs pat xs = true) (more : List Char) :
    differs (pat ++ more) xs = true := by
  induction pat generalizing xs with
  | nil => cases h
  | cons p ps ih =>
    cases xs with
    | nil => cases h
    | cons c xs =>
      simp only [differs, Bool.or_eq_true, List.cons_append] at h ⊢
      exact h.imp_right ih

/-- A pattern with a character that a text lacks cannot be read in it, and a character that the
    pattern lacks ends the reading. -/
theorem differs_of_missing (hz : z ∈ pat) (hmissing : z ∉ xs) (hx : x ∉ pat) :
    differs pat (xs ++ [x]) = true := by
  induction xs generalizing pat with
  | nil =>
    cases pat with
    | nil => cases hz
    | cons p ps =>
      have hne : p ≠ x := fun heq => hx (heq ▸ List.mem_cons_self)
      simp [differs, hne]
  | cons c xs ih =>
    cases pat with
    | nil => cases hz
    | cons p ps =>
      rw [List.mem_cons, not_or] at hmissing hx
      by_cases heq : p = c
      · have hz : z ∈ ps := (List.mem_cons.mp hz).resolve_left (heq ▸ hmissing.1)
        simp only [List.cons_append, differs, ih hz hmissing.2 hx.2, Bool.or_true]
      · simp [differs, heq]

/-! ### Texts apart -/

theorem apart_nil (pat : List Char) : Apart pat [] := rfl

theorem apart_cons {c : Char} :
    Apart pat (c :: xs) ↔ differs pat (c :: xs) = true ∧ Apart pat xs := by
  have hfirst : pat.head?.any (· != c) = true → differs pat (c :: xs) = true := by
    cases pat with
    | nil => exact nofun
    | cons p ps =>
      intro hne
      simp only [differs, Bool.or_eq_true]
      exact Or.inl hne
  simp only [Apart, isApart, Bool.and_eq_true, Bool.or_eq_true, or_iff_right_of_imp hfirst]

theorem Apart.append (hxs : Apart pat xs) (hys : Apart pat ys) : Apart pat (xs ++ ys) := by
  induction xs with
  | nil => exact hys
  | cons c xs ih =>
    obtain ⟨hhead, hrest⟩ := apart_cons.mp hxs
    exact apart_cons.mpr ⟨differs_append_right hhead ys, ih hrest⟩

theorem Apart.longer (h : Apart pat xs) (more : List Char) : Apart (pat ++ more) xs := by
  induction xs with
  | nil => rfl
  | cons c xs ih =>
    obtain ⟨hhead, hrest⟩ := apart_cons.mp h
    exact apart_cons.mpr ⟨differs_append_left hhead more, ih hrest⟩

/-- An occurrence would begin with the first character of the pattern. -/
theorem apart_of_first {p : Char} {ps : List Char} (h : p ∉ xs) : Apart (p :: ps) xs := by
  induction xs with
  | nil => rfl
  | cons c xs ih =>
    rw [List.mem_cons, not_or] at h
    exact apart_cons.mpr ⟨by simp [differs, h.1], ih h.2⟩

theorem apart_of_missing (hz : z ∈ pat) (hmissing : z ∉ xs) (hx : x ∉ pat) :
    Apart pat (xs ++ [x]) := by
  induction xs with
  | nil => exact apart_cons.mpr ⟨differs_of_missing hz hmissing hx, rfl⟩
  | cons c xs ih =>
    exact apart_cons.mpr ⟨differs_of_missing hz hmissing hx,
      ih fun hmem => hmissing (List.mem_cons_of_mem c hmem)⟩

/-- Segments with a text between them, each of which ends apart. -/
theorem apart_intercalate {sep tail : List Char} {segments : List (List Char)}
    (hne : segments ≠ []) (hsep : ∀ segment ∈ segments, Apart pat (segment ++ sep))
    (htail : ∀ segment ∈ segments, Apart pat (segment ++ tail)) :
    Apart pat (sep.intercalate segments ++ tail) := by
  induction segments with
  | nil => exact absurd rfl hne
  | cons segment segments ih =>
    rw [List.forall_mem_cons] at hsep htail
    cases segments with
    | nil =>
      rw [List.intercalate_singleton]
      exact htail.1
    | cons next segments =>
      rw [List.intercalate_cons_cons, List.append_assoc (segment ++ sep)]
      exact hsep.1.append (ih (List.cons_ne_nil _ _) hsep.2 htail.2)

/-! ### Passing over a text apart -/

theorem Apart.cut? (h : Apart pat xs) (ys : List Char) :
    cut? pat (xs ++ ys) = (cut? pat ys).map fun p => (xs ++ p.1, p.2) := by
  induction xs with
  | nil => simp
  | cons c xs ih =>
    obtain ⟨hhead, hrest⟩ := apart_cons.mp h
    have hnone := dropHead?_of_differs hhead ys
    rw [List.cons_append] at hnone
    rw [List.cons_append, Text.cut?, hnone, ih hrest, Option.map_map]
    rfl

theorem Apart.replaceAll (h : Apart pat xs) (new ys : List Char) :
    replaceAll pat new (xs ++ ys) = xs ++ replaceAll pat new ys := by
  induction xs with
  | nil => rfl
  | cons c xs ih =>
    obtain ⟨hhead, hrest⟩ := apart_cons.mp h
    have hnone := dropHead?_of_differs hhead ys
    rw [List.cons_append] at hnone
    rw [List.cons_append, Text.replaceAll, replaceFrom, hnone]
    exact congrArg (c :: ·) (ih hrest)

/-- Nothing is replaced in a text apart. -/
theorem Apart.replaceAll_eq (h : Apart pat xs) (new : List Char) :
    Text.replaceAll pat new xs = xs := by
  have happend := h.replaceAll new []
  rw [List.append_nil] at happend
  rw [happend]
  exact List.append_nil xs

theorem Apart.occurrences (h : Apart pat xs) (ys : List Char) :
    occurrences pat (xs ++ ys) = occurrences pat ys := by
  induction xs with
  | nil => rfl
  | cons c xs ih =>
    obtain ⟨hhead, hrest⟩ := apart_cons.mp h
    have hnone := dropHead?_of_differs hhead ys
    rw [List.cons_append] at hnone
    rw [List.cons_append, Text.occurrences, hnone, ih hrest]
    exact Nat.zero_add _

/-! ### Patterns that a text holds -/

theorem contains_cons (pat : List Char) (c : Char) (cs : List Char) :
    contains pat (c :: cs) = ((dropHead? pat (c :: cs)).isSome || contains pat cs) := by
  rw [contains, contains, cut?]
  cases dropHead? pat (c :: cs) with
  | some rest => rfl
  | none => simp

theorem Apart.contains_append (h : Apart pat xs) (ys : List Char) :
    contains pat (xs ++ ys) = contains pat ys := by
  rw [contains, contains, h.cut?, Option.isSome_map]

/-! ### Standing on an occurrence -/

theorem cut?_self (hpat : pat ≠ []) (ys : List Char) : cut? pat (pat ++ ys) = some ([], ys) := by
  obtain ⟨p, ps, rfl⟩ := List.exists_cons_of_ne_nil hpat
  have hhead := dropHead?_append (p :: ps) ys
  rw [List.cons_append] at hhead
  rw [List.cons_append, cut?, hhead]

/-- The first occurrence stands behind a text apart. -/
theorem Apart.cut?_eq (h : Apart pat xs) (hpat : pat ≠ []) (ys : List Char) :
    Text.cut? pat (xs ++ (pat ++ ys)) = some (xs, ys) := by
  rw [h.cut?, cut?_self hpat, Option.map_some, List.append_nil]

theorem replaceFrom_length (xs ys : List Char) :
    replaceFrom pat new xs.length (xs ++ ys) = replaceAll pat new ys := by
  induction xs with
  | nil => rfl
  | cons c xs ih => exact ih

theorem replaceAll_self (hpat : pat ≠ []) (ys : List Char) :
    replaceAll pat new (pat ++ ys) = new ++ replaceAll pat new ys := by
  obtain ⟨p, ps, rfl⟩ := List.exists_cons_of_ne_nil hpat
  have hhead := dropHead?_append (p :: ps) ys
  rw [List.cons_append] at hhead
  rw [List.cons_append, replaceAll, replaceFrom, hhead]
  exact congrArg (new ++ ·) (replaceFrom_length ps ys)

/-- In a text written character by character an occurrence is replaced where it was written as a
    whole, if all other characters are written apart from it. -/
theorem replaceAll_flatMap {f g : Char → List Char} (hpat : pat ≠ [])
    (h : ∀ c, f c = pat ∧ g c = new ∨ Apart pat (f c) ∧ g c = f c) (cs : List Char) :
    replaceAll pat new (cs.flatMap f) = cs.flatMap g := by
  induction cs with
  | nil => rfl
  | cons c cs ih =>
    rw [List.flatMap_cons, List.flatMap_cons]
    rcases h c with ⟨hf, hg⟩ | ⟨hf, hg⟩
    · rw [hf, hg, replaceAll_self hpat, ih]
    · rw [hf.replaceAll, hg, ih]

theorem occurrences_self {p : Char} {ps : List Char} (h : p ∉ ps) (ys : List Char) :
    occurrences (p :: ps) ((p :: ps) ++ ys) = 1 + occurrences (p :: ps) ys := by
  have hhead := dropHead?_append (p :: ps) ys
  rw [List.cons_append] at hhead
  rw [List.cons_append, occurrences, hhead, (apart_of_first h).occurrences]
  rfl

/-! ### Replacing in any text -/

theorem length_le_of_dropHead? {rest : List Char} (h : dropHead? pat xs = some rest) :
    pat.length ≤ xs.length := by
  rw [eq_append_of_dropHead? h, List.length_append]
  exact Nat.le_add_right _ _

theorem replaceFrom_append_cons (hpat : pat ≠ []) (hx : x ∉ pat) {skip : Nat}
    (hskip : skip ≤ xs.length) :
    replaceFrom pat new skip (xs ++ x :: ys) =
      replaceFrom pat new skip xs ++ x :: replaceAll pat new ys := by
  have hstop : ∀ c ∈ (x :: ys).head?, c ∉ pat := fun c hc => Option.some.inj hc ▸ hx
  induction xs generalizing skip with
  | nil =>
    obtain rfl := Nat.le_zero.mp hskip
    have hnone : dropHead? pat (x :: ys) = none := dropHead?_eq_none_of_head hpat hstop
    simp only [List.nil_append, replaceFrom, hnone, replaceAll]
  | cons c xs ih =>
    cases skip with
    | succ skip => exact ih (Nat.le_of_succ_le_succ hskip)
    | zero =>
      have hhead := dropHead?_append_tail hstop (c :: xs)
      rw [List.cons_append] at hhead
      rw [List.cons_append, replaceFrom, replaceFrom, hhead]
      cases hdrop : dropHead? pat (c :: xs) with
      | none => exact congrArg (c :: ·) (ih (Nat.zero_le _))
      | some rest =>
        -- what is left of the occurrence lies before the character, too
        have hlength : pat.length - 1 ≤ xs.length :=
          Nat.sub_le_iff_le_add.mpr (length_le_of_dropHead? hdrop)
        simp only [Option.map_some, ih hlength, List.append_assoc]

/-- A character that the pattern does not hold parts a text. -/
theorem replaceAll_append_cons (hpat : pat ≠ []) (hx : x ∉ pat) (xs ys : List Char) :
    replaceAll pat new (xs ++ x :: ys) = replaceAll pat new xs ++ x :: replaceAll pat new ys :=
  replaceFrom_append_cons hpat hx (Nat.zero_le _)

theorem forall_mem_replaceFrom {P : Char → Prop} (hnew : ∀ c ∈ new, P c) (skip : Nat)
    (hxs : ∀ c ∈ xs, P c) : ∀ c ∈ replaceFrom pat new skip xs, P c := by
  induction xs generalizing skip with
  | nil => cases skip <;> exact List.forall_mem_nil P
  | cons c xs ih =>
    rw [List.forall_mem_cons] at hxs
    cases skip with
    | succ skip => exact ih skip hxs.2
    | zero =>
      rw [replaceFrom]
      split
      · exact List.forall_mem_append.mpr ⟨hnew, ih _ hxs.2⟩
      · exact List.forall_mem_cons.mpr ⟨hxs.1, ih _ hxs.2⟩

/-- Each character comes from the text or from what is put into it. -/
theorem forall_mem_replaceAll {P : Char → Prop} (hnew : ∀ c ∈ new, P c) (hxs : ∀ c ∈ xs, P c) :
    ∀ c ∈ replaceAll pat new xs, P c :=
  forall_mem_replaceFrom hnew 0 hxs

theorem exists_segments_from (pat new : List Char) (skip : Nat) (cs : List Char) :
    ∃ segments, segments ≠ [] ∧ (∀ segment ∈ segments, segment ⊆ cs) ∧
      replaceFrom pat new skip cs = new.intercalate segments := by
  induction cs generalizing skip with
  | nil => exact ⟨[[]], List.cons_ne_nil _ _, by simp, by cases skip <;> rfl⟩
  | cons c cs ih =>
    have hwider : ∀ segments : List (List Char), (∀ segment ∈ segments, segment ⊆ cs) →
        ∀ segment ∈ segments, segment ⊆ c :: cs := fun segments h segment hsegment =>
      List.subset_cons_of_subset c (h segment hsegment)
    cases skip with
    | succ skip =>
      obtain ⟨segments, hne, hsub, hreplace⟩ := ih skip
      exact ⟨segments, hne, hwider segments hsub, hreplace⟩
    | zero =>
      cases hdrop : dropHead? pat (c :: cs) with
      | some rest =>
        obtain ⟨segments, hne, hsub, hreplace⟩ := ih (pat.length - 1)
        refine ⟨[] :: segments, List.cons_ne_nil _ _, ?_, ?_⟩
        · exact List.forall_mem_cons.mpr ⟨List.nil_subset _, hwider segments hsub⟩
        · rw [replaceFrom, hdrop, List.intercalate_cons_of_ne_nil hne, ← hreplace]
          rfl
      | none =>
        obtain ⟨segments, hne, hsub, hreplace⟩ := ih 0
        obtain ⟨segment, rest, rfl⟩ := List.exists_cons_of_ne_nil hne
        rw [List.forall_mem_cons] at hsub
        refine ⟨(c :: segment) :: rest, List.cons_ne_nil _ _, ?_, ?_⟩
        · exact List.forall_mem_cons.mpr
            ⟨List.cons_subset_cons c hsub.1, hwider rest hsub.2⟩
        · rw [replaceFrom, hdrop]
          refine (congrArg (c :: ·) hreplace).trans ?_
          cases rest with
          | nil => rfl
          | cons next rest => simp [List.intercalate_cons_cons]

/-- A replacement leaves segments of the text, with the new text between them. -/
theorem exists_segments (pat new cs : List Char) :
    ∃ segments, segments ≠ [] ∧ (∀ segment ∈ segments, segment ⊆ cs) ∧
      replaceAll pat new cs = new.intercalate segments :=
  exists_segments_from pat new 0 cs

/-- What stands between segments is left alone if it keeps them apart. -/
theorem replaceAll_intercalate (hpat : pat ≠ []) (hx : x ∉ pat) {mid : List Char}
    (hmid : Apart pat mid) (segments : List (List Char)) :
    replaceAll pat new ((x :: mid).intercalate segments) =
      (x :: mid).intercalate (segments.map (replaceAll pat new)) := by
  induction segments with
  | nil => rfl
  | cons segment segments ih =>
    cases segments with
    | nil => simp only [List.map_cons, List.map_nil, List.intercalate_singleton]
    | cons next segments =>
      rw [List.map_cons, List.map_cons, List.intercalate_cons_cons, List.intercalate_cons_cons,
        ← List.map_cons, ← ih, List.append_assoc, List.append_assoc, List.cons_append,
        List.cons_append, replaceAll_append_cons hpat hx, hmid.replaceAll]

end TimedTrials.Text
