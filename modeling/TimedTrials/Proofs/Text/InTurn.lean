/-
  TimedTrials/Proofs/Text/InTurn.lean
  ===================================
  **When replacing patterns one after the other is one pass over the text.**

  `OnePass entries cs ds` says what a single pass from left to right makes of a text: it puts in
  the text of a pattern that it stands on and goes on behind the pattern, so that nothing it has
  put in is looked at again. `replaceEach` is such a pass (`onePass_replaceEach`).

  Whole texts gone over once for each pattern come to the same if no entry meddles with a later one
  (`LeavesAlone`): it does not begin in the later pattern, so that no occurrence of it is broken,
  and what it puts in has no character of it, so that no occurrence is made. Replacing the first
  pattern then leaves the pass of the others to be done (`OnePass.of_cons`), and from this all of
  them follow (`Orderly.onePass_iff`).
-/
import TimedTrials.Proofs.Text.Simultaneous

namespace TimedTrials.Text

/-! ### One pass -/

/-- What one pass from left to right makes of a text. -/
inductive OnePass (entries : List (List Char × List Char)) : List Char → List Char → Prop where
  | done : OnePass entries [] []
  | pattern {pat new cs ds : List Char} : (pat, new) ∈ entries → OnePass entries cs ds →
      OnePass entries (pat ++ cs) (new ++ ds)
  | other {c : Char} {cs ds : List Char} : (∀ entry ∈ entries, ¬ entry.1 <+: c :: cs) →
      OnePass entries cs ds → OnePass entries (c :: cs) (c :: ds)

variable {entries rest : List (List Char × List Char)} {pat new cs ds xs ys : List Char}

theorem isSome_dropHead?_iff : (dropHead? pat cs).isSome ↔ pat <+: cs := by
  rw [Option.isSome_iff_exists]
  constructor
  · rintro ⟨rest, h⟩
    exact ⟨rest, (eq_append_of_dropHead? h).symm⟩
  · rintro ⟨rest, rfl⟩
    exact ⟨rest, dropHead?_append pat rest⟩

theorem dropHead?_eq_none_iff : dropHead? pat cs = none ↔ ¬ pat <+: cs := by
  rw [← isSome_dropHead?_iff, Option.not_isSome_iff_eq_none]

theorem onePass_replaceEachFrom (hpats : ∀ entry ∈ entries, entry.1 ≠ []) (skip : Nat)
    (cs : List Char) : OnePass entries (cs.drop skip) (replaceEachFrom entries skip cs) := by
  induction cs generalizing skip with
  | nil => cases skip <;> exact .done
  | cons c cs ih =>
    cases skip with
    | succ skip => exact ih skip
    | zero =>
      rw [List.drop_zero, replaceEachFrom]
      cases hfind : entries.find? fun entry => (dropHead? entry.1 (c :: cs)).isSome with
      | none =>
        refine .other (fun entry hentry hhead => ?_) (ih 0)
        exact List.find?_eq_none.mp hfind entry hentry (isSome_dropHead?_iff.mpr hhead)
      | some entry =>
        obtain ⟨pat, new⟩ := entry
        have hentry := List.mem_of_find?_eq_some hfind
        have hhead := List.find?_some hfind
        obtain ⟨rest, hrest⟩ := isSome_dropHead?_iff.mp hhead
        obtain ⟨p, ps, rfl⟩ := List.exists_cons_of_ne_nil (hpats _ hentry)
        have hparts : p :: (ps ++ rest) = c :: cs := hrest
        obtain ⟨rfl, rfl⟩ := List.cons.inj hparts
        -- the rest of the occurrence is skipped, and the pass goes on behind it
        have hpass := ih ps.length
        rw [List.drop_left] at hpass
        exact .pattern hentry hpass

/-- **Replacing at once is one pass.** -/
theorem onePass_replaceEach (hpats : ∀ entry ∈ entries, entry.1 ≠ []) (cs : List Char) :
    OnePass entries cs (replaceEach entries cs) :=
  onePass_replaceEachFrom hpats 0 cs

/-- A text that no pattern begins in is passed over. -/
theorem OnePass.append_left (h : OnePass entries cs ds)
    (hxs : ∀ entry ∈ entries, Apart entry.1 xs) : OnePass entries (xs ++ cs) (xs ++ ds) := by
  induction xs with
  | nil => exact h
  | cons x xs ih =>
    have hrest := ih fun entry hentry => (apart_cons.mp (hxs entry hentry)).2
    refine .other (fun entry hentry => ?_) hrest
    have hhead := (apart_cons.mp (hxs entry hentry)).1
    exact dropHead?_eq_none_iff.mp (dropHead?_of_differs hhead cs)

theorem eq_of_onePass_nil (h : OnePass [] cs ds) : ds = cs := by
  induction h with
  | done => rfl
  | pattern hentry => exact absurd hentry List.not_mem_nil
  | other _ _ ih => rw [ih]

/-! ### One pattern after the other -/

/-- Replaces the pattern of each entry in the whole text, one entry after the other. -/
def replaceInTurn (entries : List (List Char × List Char)) (cs : List Char) : List Char :=
  entries.foldl (fun cs entry => replaceAll entry.1 entry.2 cs) cs

/-- An entry does not meddle with a later one: its pattern does not begin in the later one, and
    what it puts in is some text without a character of the later one. -/
def LeavesAlone (entry later : List Char × List Char) : Prop :=
  Apart entry.1 later.1 ∧ entry.2 ≠ [] ∧ ∀ c ∈ entry.2, c ∉ later.1

instance (entry later : List Char × List Char) : Decidable (LeavesAlone entry later) :=
  inferInstanceAs (Decidable (_ ∧ _ ∧ _))

/-- A beginning without characters of what is put in was there before. -/
theorem prefix_of_prefix_replaceAll (hnew : new ≠ []) (hforeign : ∀ c ∈ new, c ∉ xs)
    (h : xs <+: replaceAll pat new cs) : xs <+: cs := by
  obtain ⟨y, ys, rfl⟩ := List.exists_cons_of_ne_nil hnew
  induction xs generalizing cs with
  | nil => exact List.nil_prefix
  | cons x xs ih =>
    cases cs with
    | nil => exact h
    | cons c cs =>
      rw [replaceAll, replaceFrom] at h
      split at h
      · have hx : x = y := (List.cons_prefix_cons.mp h).1
        exact absurd (hx ▸ List.mem_cons_self) (hforeign y List.mem_cons_self)
      · obtain ⟨rfl, htail⟩ := List.cons_prefix_cons.mp h
        have hforeign' : ∀ c ∈ y :: ys, c ∉ xs := fun c hc hmem =>
          hforeign c hc (List.mem_cons_of_mem x hmem)
        exact List.cons_prefix_cons.mpr ⟨rfl, ih hforeign' htail⟩

/-- **One pattern replaced leaves the pass of the others to be done.** -/
theorem OnePass.of_cons (h : OnePass ((pat, new) :: rest) cs ds) (hpat : pat ≠ [])
    (hpats : ∀ entry ∈ rest, entry.1 ≠ []) (halone : ∀ entry ∈ rest, LeavesAlone (pat, new) entry) :
    OnePass rest (replaceAll pat new cs) ds := by
  induction h with
  | done => exact .done
  | @pattern pat' new' cs ds hentry _ ih =>
    rcases List.mem_cons.mp hentry with hfirst | hentry
    · obtain ⟨rfl, rfl⟩ := Prod.mk.inj hfirst
      rw [replaceAll_self hpat]
      refine ih.append_left fun entry hentry => ?_
      obtain ⟨p, ps, hentry'⟩ := List.exists_cons_of_ne_nil (hpats entry hentry)
      have hforeign := (halone entry hentry).2.2
      rw [hentry'] at hforeign ⊢
      exact apart_of_first fun hp => hforeign p hp List.mem_cons_self
    · -- a later pattern is not broken by the first one
      rw [(halone _ hentry).1.replaceAll]
      exact .pattern hentry ih
  | @other c cs ds hnone _ ih =>
    have hhead : dropHead? pat (c :: cs) = none :=
      dropHead?_eq_none_iff.mpr (hnone _ List.mem_cons_self)
    rw [replaceAll, replaceFrom, hhead]
    refine .other (fun entry hentry hstands => ?_) ih
    -- a pattern that stands here now would have stood here before
    refine hnone entry (List.mem_cons_of_mem _ hentry) ?_
    obtain ⟨q, qs, hentry'⟩ := List.exists_cons_of_ne_nil (hpats entry hentry)
    obtain ⟨-, hsome, hforeign⟩ := halone entry hentry
    rw [hentry'] at hforeign hstands ⊢
    obtain ⟨rfl, htail⟩ := List.cons_prefix_cons.mp hstands
    have hforeign' : ∀ c ∈ new, c ∉ qs := fun c hc hmem =>
      hforeign c hc (List.mem_cons_of_mem q hmem)
    exact List.cons_prefix_cons.mpr ⟨rfl, prefix_of_prefix_replaceAll hsome hforeign' htail⟩

/-- Entries that can be replaced in turn: each has a pattern, and none meddles with a later one. -/
def Orderly (entries : List (List Char × List Char)) : Prop :=
  (∀ entry ∈ entries, entry.1 ≠ []) ∧ entries.Pairwise LeavesAlone

instance (entries : List (List Char × List Char)) : Decidable (Orderly entries) :=
  inferInstanceAs (Decidable (_ ∧ _))

theorem Orderly.replaceInTurn_eq (h : Orderly entries) (hpass : OnePass entries cs ds) :
    replaceInTurn entries cs = ds := by
  obtain ⟨hpats, halone⟩ := h
  induction entries generalizing cs with
  | nil => exact (eq_of_onePass_nil hpass).symm
  | cons entry rest ih =>
    rw [List.forall_mem_cons] at hpats
    rw [List.pairwise_cons] at halone
    exact ih (hpass.of_cons hpats.1 hpats.2 halone.1) hpats.2 halone.2

/-- **Replacing orderly entries in turn is replacing them at once.** -/
theorem Orderly.replaceInTurn_eq_replaceEach (h : Orderly entries) (cs : List Char) :
    replaceInTurn entries cs = replaceEach entries cs :=
  h.replaceInTurn_eq (onePass_replaceEach h.1 cs)

/-- Nothing else comes out of a pass over orderly entries. -/
theorem Orderly.onePass_iff (h : Orderly entries) :
    OnePass entries cs ds ↔ ds = replaceInTurn entries cs := by
  constructor
  · intro hpass
    exact (h.replaceInTurn_eq hpass).symm
  · rintro rfl
    rw [h.replaceInTurn_eq_replaceEach]
    exact onePass_replaceEach h.1 cs

end TimedTrials.Text
