/-
  TimedTrials/Proofs/Text/Simultaneous.lean
  =========================================
  **Replacing several patterns at once**, in one pass from left to right that never looks at what it
  has put in.

  `replaceEach` is the plain statement of what filling the slots of a text means. It passes over a
  text apart from all patterns and puts in the text of a pattern that it stands on. What patterns
  replaced one after the other come to beside it is decided by whether a text put in holds a later
  pattern: replacing by something longer leaves a text as it is just when the pattern does not
  stand in it (`replaceAll_eq_self_iff`).
-/
import TimedTrials.Proofs.Text.Occurrence

namespace TimedTrials.Text

/-- Replaces patterns by their texts behind the first `skip` characters, which belong to an
    occurrence that has been replaced already. The first entry counts where several fit. -/
def replaceEachFrom (entries : List (List Char × List Char)) : Nat → List Char → List Char
  | _, [] => []
  | skip + 1, _ :: cs => replaceEachFrom entries skip cs
  | 0, c :: cs =>
    match entries.find? fun entry => (dropHead? entry.1 (c :: cs)).isSome with
    | some (pat, new) => new ++ replaceEachFrom entries (pat.length - 1) cs
    | none => c :: replaceEachFrom entries 0 cs

/-- Replaces all occurrences of all patterns by their texts, at once. -/
def replaceEach (entries : List (List Char × List Char)) (cs : List Char) : List Char :=
  replaceEachFrom entries 0 cs

variable {entries : List (List Char × List Char)} {pat new xs cs : List Char} {x : Char}

/-! ### One pass over a text -/

/-- A text apart from all patterns stays. -/
theorem replaceEach_append (h : ∀ entry ∈ entries, Apart entry.1 xs) (ys : List Char) :
    replaceEach entries (xs ++ ys) = xs ++ replaceEach entries ys := by
  induction xs with
  | nil => rfl
  | cons c xs ih =>
    have hnone : entries.find? (fun entry => (dropHead? entry.1 (c :: (xs ++ ys))).isSome) =
        none := by
      rw [List.find?_eq_none]
      intro entry hentry
      have hhead := dropHead?_of_differs (apart_cons.mp (h entry hentry)).1 ys
      rw [List.cons_append] at hhead
      simp [hhead]
    have hrest := ih fun entry hentry => (apart_cons.mp (h entry hentry)).2
    rw [List.cons_append, replaceEach, replaceEachFrom, hnone]
    exact congrArg (c :: ·) hrest

theorem replaceEachFrom_length (xs ys : List Char) :
    replaceEachFrom entries xs.length (xs ++ ys) = replaceEach entries ys := by
  induction xs with
  | nil => rfl
  | cons c xs ih => exact ih

/-- A pattern gives way to its text, unless an earlier one stands there as well. -/
theorem replaceEach_entry (before after : List (List Char × List Char)) (hpat : pat ≠ [])
    (hbefore : ∀ entry ∈ before, differs entry.1 pat = true) (ys : List Char) :
    replaceEach (before ++ (pat, new) :: after) (pat ++ ys) =
      new ++ replaceEach (before ++ (pat, new) :: after) ys := by
  obtain ⟨p, ps, rfl⟩ := List.exists_cons_of_ne_nil hpat
  have hhead := dropHead?_append (p :: ps) ys
  have hfound : (before ++ (p :: ps, new) :: after).find?
      (fun entry => (dropHead? entry.1 (p :: (ps ++ ys))).isSome) = some (p :: ps, new) := by
    rw [List.find?_append, List.find?_eq_none.mpr, Option.none_or]
    · rw [List.cons_append] at hhead
      simp [hhead]
    · intro entry hentry
      have hnone := dropHead?_of_differs (hbefore entry hentry) ys
      rw [List.cons_append] at hnone
      simp [hnone]
  rw [List.cons_append, replaceEach, replaceEachFrom, hfound]
  exact congrArg (new ++ ·) (replaceEachFrom_length ps ys)

/-! ### Patterns that a text does not hold -/

theorem replaceAll_eq_self_of_not_contains (h : contains pat cs = false) :
    replaceAll pat new cs = cs := by
  induction cs with
  | nil => rfl
  | cons c cs ih =>
    rw [contains_cons, Bool.or_eq_false_iff, Option.isSome_eq_false_iff, Option.isNone_iff_eq_none]
      at h
    rw [replaceAll, replaceFrom, h.1]
    exact congrArg (c :: ·) (ih h.2)

/-- A text does not get shorter by what is put in, if that is no shorter than the pattern. -/
theorem length_le_replaceFrom (hpat : pat ≠ []) (hlength : pat.length ≤ new.length) (skip : Nat)
    (cs : List Char) : cs.length ≤ (replaceFrom pat new skip cs).length + skip := by
  have hpos := List.length_pos_of_ne_nil hpat
  induction cs generalizing skip with
  | nil => exact Nat.zero_le _
  | cons c cs ih =>
    cases skip with
    | succ skip => exact Nat.succ_le_succ (ih skip)
    | zero =>
      rw [replaceFrom]
      split
      · have hrest := ih (pat.length - 1)
        rw [List.length_cons, List.length_append]
        omega
      · exact Nat.succ_le_succ (ih 0)

theorem length_lt_replaceAll (hpat : pat ≠ []) (hlength : pat.length < new.length)
    (h : contains pat cs = true) : cs.length < (replaceAll pat new cs).length := by
  have hpos := List.length_pos_of_ne_nil hpat
  induction cs with
  | nil => simp [contains, cut?, hpat] at h
  | cons c cs ih =>
    rw [replaceAll, replaceFrom]
    split
    · have hrest := length_le_replaceFrom hpat (Nat.le_of_lt hlength) (pat.length - 1) cs
      rw [List.length_cons, List.length_append]
      omega
    · rename_i hnone
      rw [contains_cons, hnone, Option.isSome_none, Bool.false_or] at h
      exact Nat.succ_lt_succ (ih h)

/-- **Replacing a pattern by something longer shows**, wherever the pattern stands. -/
theorem replaceAll_eq_self_iff (hpat : pat ≠ []) (hlength : pat.length < new.length) :
    replaceAll pat new cs = cs ↔ contains pat cs = false := by
  refine ⟨fun heq => ?_, replaceAll_eq_self_of_not_contains⟩
  rw [← Bool.not_eq_true]
  intro hcontains
  have hlt := length_lt_replaceAll hpat hlength hcontains
  rw [heq] at hlt
  exact Nat.lt_irrefl _ hlt

/-! ### A text that stands in another one once -/

theorem differs_of_shorter (hlength : xs.length < pat.length) (hx : x ∉ pat) :
    differs pat (xs ++ [x]) = true := by
  induction xs generalizing pat with
  | nil =>
    cases pat with
    | nil => cases hlength
    | cons p ps =>
      have hne : p ≠ x := fun heq => hx (heq ▸ List.mem_cons_self)
      simp [differs, hne]
  | cons c xs ih =>
    cases pat with
    | nil => cases hlength
    | cons p ps =>
      have hrest := ih (Nat.lt_of_succ_lt_succ hlength) fun hmem => hx (List.mem_cons_of_mem p hmem)
      simp only [List.cons_append, differs, hrest, Bool.or_true]

/-- A pattern that lacks a character needs more room than there is in front of it. -/
theorem apart_of_shorter (hlength : xs.length < pat.length) (hx : x ∉ pat) :
    Apart pat (xs ++ [x]) := by
  induction xs with
  | nil => exact apart_cons.mpr ⟨differs_of_shorter hlength hx, rfl⟩
  | cons c xs ih =>
    exact apart_cons.mpr ⟨differs_of_shorter hlength hx, ih (Nat.lt_of_succ_lt hlength)⟩

theorem occurrences_cons_append (p : Char) (ps ys : List Char) :
    occurrences (p :: ps) (p :: ps ++ ys) = 1 + occurrences (p :: ps) (ps ++ ys) := by
  have hhead := dropHead?_append (p :: ps) ys
  rw [List.cons_append] at hhead
  rw [List.cons_append, occurrences, hhead]
  rfl

/-- Behind its own occurrence a text stands again no sooner than behind a character it lacks. -/
theorem occurrences_self_stop (hpat : pat ≠ []) (hx : x ∉ pat) (ys : List Char) :
    occurrences pat (pat ++ x :: ys) = 1 + occurrences pat ys := by
  obtain ⟨p, ps, rfl⟩ := List.exists_cons_of_ne_nil hpat
  have happart : Apart (p :: ps) (ps ++ [x]) := apart_of_shorter (Nat.lt_succ_self _) hx
  rw [occurrences_cons_append, ← happart.occurrences ys, List.append_assoc, List.singleton_append]

theorem occurrences_of_length_lt (h : cs.length < pat.length) : occurrences pat cs = 0 := by
  induction cs with
  | nil => rfl
  | cons c cs ih =>
    have hnone : dropHead? pat (c :: cs) = none := by
      cases hdrop : dropHead? pat (c :: cs) with
      | none => rfl
      | some rest => exact absurd (length_le_of_dropHead? hdrop) (Nat.not_le.mpr h)
    rw [occurrences, hnone, ih (Nat.lt_of_succ_lt h)]
    rfl

/-- A long text stands only once in itself with a little behind it, if nothing of its first part
    begins it again. -/
theorem occurrences_append_of_short {head more : List Char} (hhead : head ≠ [])
    (happart : Apart head head.tail) (hshort : xs.length < head.length) :
    occurrences (head ++ more) (head ++ more ++ xs) = 1 := by
  obtain ⟨p, ps, rfl⟩ := List.exists_cons_of_ne_nil hhead
  have happart : Apart (p :: (ps ++ more)) ps := Apart.longer happart more
  have hlength : (more ++ xs).length < (p :: (ps ++ more)).length := by
    simp only [List.length_append, List.length_cons] at hshort ⊢
    omega
  rw [List.cons_append, occurrences_cons_append, List.append_assoc, happart.occurrences,
    occurrences_of_length_lt hlength]

end TimedTrials.Text
