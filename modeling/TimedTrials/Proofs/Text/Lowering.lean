/-
  TimedTrials/Proofs/Text/Lowering.lean
  =====================================
  **A lowered text stays as it is.**

  Lowercasing replaces characters run by run. What a run goes over into lies apart from every run,
  from the blanks and from the code points that are no characters; that is a property of the
  table, and it is checked run against run and not character by character (`letterRuns_settled`).
  So a character of a lowered text is its own lowercase form, in whatever place it stands
  (`lower_lower`), and the ends of a text that are no blanks do not become blanks
  (`trim_lower_trim`).
-/
import TimedTrials.Proofs.Text.Trimming
import TimedTrials.Text.Case

namespace TimedTrials.Text

/-! ### Runs that lie apart -/

namespace ShiftRun

variable {run other : ShiftRun} {n m : Nat}

/-- The code point is one of the run's. -/
def Holds (run : ShiftRun) (n : Nat) : Prop :=
  run.first ≤ n ∧ n ≤ run.last ∧ (n - run.first) % run.step = 0

/-- What replaces a code point of the run. -/
def target (run : ShiftRun) (n : Nat) : Nat := ((n : Int) + run.distance).toNat

theorem shift?_eq_some_iff : run.shift? n = some m ↔ run.Holds n ∧ m = run.target n := by
  simp only [shift?, Holds, target, Option.ite_none_right_eq_some, Option.some.injEq,
    eq_comm (a := m)]

/-- The run of what replaces the code points of a run. -/
def image (run : ShiftRun) : ShiftRun :=
  ⟨run.target run.first, run.target run.last, run.step, 0⟩

/-- Whether two runs are seen to have no code point in common: one ends before the other begins,
    or they alternate. -/
def apart (run other : ShiftRun) : Bool :=
  Nat.blt run.last other.first || Nat.blt other.last run.first ||
    (other.step == 2 && (run.step == 2 || run.first == run.last) &&
      (run.first + other.first) % 2 == 1)

theorem image_holds (hfirst : 0 ≤ run.first + run.distance) (h : run.Holds n) :
    run.image.Holds (run.target n) := by
  obtain ⟨hle, hge, hstep⟩ := h
  have hsame : run.target n - run.target run.first = n - run.first := by
    simp only [target]
    omega
  refine ⟨?_, ?_, ?_⟩
  · simp only [image, target]
    omega
  · simp only [image, target]
    omega
  · simp only [image, hsame, hstep]

theorem not_holds_of_apart (h : run.apart other = true) (hn : run.Holds n) : ¬ other.Holds n := by
  obtain ⟨hle, hge, hstep⟩ := hn
  rintro ⟨hotherle, hotherge, hotherstep⟩
  simp only [apart, Bool.or_eq_true, Bool.and_eq_true, Nat.blt_eq, beq_iff_eq] at h
  obtain (hbefore | hbehind) | ⟨⟨hother, hrun | hlone⟩, hparity⟩ := h
  · omega
  · omega
  · rw [hrun] at hstep
    rw [hother] at hotherstep
    omega
  · rw [hother] at hotherstep
    omega

end ShiftRun

/-! ### The table -/

/-- The runs of all letters that are lowered one by one. -/
def letterRuns : List ShiftRun := ⟨0x41, 0x5a, 1, 32⟩ :: caseRuns

/-- Code points that no letter may be lowered to: those of `İ` and of the letters, the blanks, and
    the halves of surrogate pairs, which are no characters. -/
def unreachedRuns : List ShiftRun :=
  ⟨0x130, 0x130, 1, 0⟩ :: ⟨0xd800, 0xdfff, 1, 0⟩ ::
    (blankCodes.map (fun n => ⟨n, n, 1, 0⟩) ++ letterRuns)

/-- A run stays within the code points and goes over into none of those that are ruled out. -/
def ShiftRun.isSettled (run : ShiftRun) : Bool :=
  decide (0 ≤ run.first + run.distance) && decide (run.target run.last < 0x110000) &&
    unreachedRuns.all run.image.apart

theorem letterRuns_settled : letterRuns.all ShiftRun.isSettled = true := by decide +kernel

theorem image_holds_of_mem {run : ShiftRun} {n : Nat} (hrun : run ∈ letterRuns) (hn : run.Holds n) :
    run.image.Holds (run.target n) := by
  have hsettled := List.all_eq_true.mp letterRuns_settled run hrun
  simp only [ShiftRun.isSettled, Bool.and_eq_true, decide_eq_true_eq] at hsettled
  exact ShiftRun.image_holds hsettled.1.1 hn

theorem lower_target {run : ShiftRun} {n : Nat} (hrun : run ∈ letterRuns) (hn : run.Holds n) :
    run.target n < 0x110000 ∧ ∀ other ∈ unreachedRuns, ¬ other.Holds (run.target n) := by
  have hsettled := List.all_eq_true.mp letterRuns_settled run hrun
  simp only [ShiftRun.isSettled, Bool.and_eq_true, decide_eq_true_eq, List.all_eq_true] at hsettled
  obtain ⟨⟨_, hlast⟩, hapart⟩ := hsettled
  have himage := image_holds_of_mem hrun hn
  exact ⟨Nat.lt_of_le_of_lt himage.2.1 hlast, fun other hother =>
    ShiftRun.not_holds_of_apart (hapart other hother) himage⟩

/-- What a letter is lowered to is the code point of a character. -/
theorem toNat_ofNat_target {run : ShiftRun} {n : Nat} (hrun : run ∈ letterRuns) (hn : run.Holds n) :
    (Char.ofNat (run.target n)).toNat = run.target n := by
  obtain ⟨hbound, hclear⟩ := lower_target hrun hn
  have hsurrogate : ¬ (0xd800 ≤ run.target n ∧ run.target n ≤ 0xdfff) := fun h =>
    hclear ⟨0xd800, 0xdfff, 1, 0⟩ (by simp [unreachedRuns]) ⟨h.1, h.2, Nat.mod_one _⟩
  have hvalid : (run.target n).isValidChar := by
    rw [Nat.isValidChar]
    omega
  rw [Char.ofNat, dif_pos hvalid]
  rfl

/-! ### Single characters -/

variable {c d : Char} {before cs : List Char}

/-- A letter is lowered on its own, `İ` becomes two characters, and any other character is
    kept. -/
theorem lowerChar_cases (c : Char) :
    (∃ run ∈ letterRuns, run.Holds c.toNat ∧ lowerChar c = [Char.ofNat (run.target c.toNat)]) ∨
      lowerChar c = ['i', Char.ofNat 0x307] ∨ lowerChar c = [c] := by
  unfold lowerChar
  split
  · rw [lowerAsciiChar]
    split
    · rename_i hcapital
      refine Or.inl ⟨_, List.mem_cons_self, ?_, rfl⟩
      exact ⟨hcapital.1, hcapital.2, Nat.mod_one _⟩
    · exact Or.inr (Or.inr rfl)
  · split
    · exact Or.inr (Or.inl rfl)
    · cases hshift : caseRuns.findSome? (·.shift? c.toNat) with
      | none => exact Or.inr (Or.inr rfl)
      | some n =>
        obtain ⟨run, hrun, hn⟩ := List.exists_of_findSome?_eq_some hshift
        obtain ⟨hholds, rfl⟩ := ShiftRun.shift?_eq_some_iff.mp hn
        exact Or.inl ⟨run, List.mem_cons_of_mem _ hrun, hholds, rfl⟩

theorem lowerChar_eq_self (hdotted : c.toNat ≠ 0x130)
    (h : ∀ run ∈ letterRuns, ¬ run.Holds c.toNat) : lowerChar c = [c] := by
  have hcapital : ¬ ('A' ≤ c ∧ c ≤ 'Z') := fun hcapital =>
    h _ List.mem_cons_self ⟨hcapital.1, hcapital.2, Nat.mod_one _⟩
  have hnone : caseRuns.findSome? (·.shift? c.toNat) = none := by
    rw [List.findSome?_eq_none_iff]
    intro run hrun
    rw [Option.eq_none_iff_forall_ne_some]
    intro n hn
    exact h run (List.mem_cons_of_mem _ hrun) (ShiftRun.shift?_eq_some_iff.mp hn).1
  have hne : c ≠ 'İ' := fun heq => hdotted (heq ▸ rfl)
  simp only [lowerChar, lowerAsciiChar, hcapital, hne, hnone, if_false, ite_self]

theorem isBlank_eq_false (h : ∀ code ∈ blankCodes, c.toNat ≠ code) : isBlank c = false := by
  rw [isBlank, List.contains_eq_mem, decide_eq_false_iff_not]
  exact fun hmem => h _ hmem rfl

/-- What a character is lowered to, wherever it stands: characters that are their own lowercase
    forms, and blanks for a blank only. -/
structure IsLowering (c : Char) (ds : List Char) : Prop where
  nonempty : ds ≠ []
  small : ∀ d ∈ ds, lowerChar d = [d]
  nonblank : isBlank c = false → ∀ d ∈ ds, isBlank d = false

theorem isLowering_singleton (hsmall : lowerChar d = [d])
    (hblank : isBlank c = false → isBlank d = false) : IsLowering c [d] :=
  ⟨List.cons_ne_nil _ _, by simpa using hsmall, by simpa using hblank⟩

/-- The letters that others are lowered to by a rule of their own are small, and no blanks. -/
theorem small_of_rules :
    (['i', Char.ofNat 0x307, 'ς', 'σ'].all fun d => lowerChar d == [d] && !isBlank d) = true ∧
      lowerChar 'Σ' ≠ ['Σ'] := by
  decide +kernel

theorem small_of_mem_rules (h : d ∈ ['i', Char.ofNat 0x307, 'ς', 'σ']) :
    lowerChar d = [d] ∧ isBlank d = false := by
  have hsmall := List.all_eq_true.mp small_of_rules.1 d h
  simpa only [Bool.and_eq_true, beq_iff_eq, Bool.not_eq_true'] using hsmall

theorem isLowering_lowerChar (c : Char) : IsLowering c (lowerChar c) := by
  obtain ⟨run, hrun, hholds, hlower⟩ | hlower | hlower := lowerChar_cases c
  · -- the table rules out everything that would be lowered once more
    have hclear := (lower_target hrun hholds).2
    have hcode := toNat_ofNat_target hrun hholds
    generalize run.target c.toNat = n at hlower hclear hcode
    have hdotted : n ≠ 0x130 := by
      rintro rfl
      exact hclear ⟨0x130, 0x130, 1, 0⟩ List.mem_cons_self ⟨Nat.le_refl _, Nat.le_refl _, rfl⟩
    rw [hlower]
    refine isLowering_singleton (lowerChar_eq_self ?_ ?_) fun _ => isBlank_eq_false ?_
    · rwa [hcode]
    · rw [hcode]
      exact fun other hother => hclear other (by simp [unreachedRuns, hother])
    · rw [hcode]
      rintro code hblank rfl
      refine hclear ⟨n, n, 1, 0⟩ ?_ ⟨Nat.le_refl _, Nat.le_refl _, Nat.mod_one _⟩
      simp only [unreachedRuns, List.mem_cons, List.mem_append, List.mem_map]
      exact Or.inr (Or.inr (Or.inl ⟨n, hblank, rfl⟩))
  · have hdot : ∀ d ∈ ['i', Char.ofNat 0x307], lowerChar d = [d] ∧ isBlank d = false :=
      fun d hd => small_of_mem_rules (List.mem_append_left ['ς', 'σ'] hd)
    rw [hlower]
    exact ⟨List.cons_ne_nil _ _, fun d hd => (hdot d hd).1, fun _ d hd => (hdot d hd).2⟩
  · rw [hlower]
    exact isLowering_singleton hlower id

/-! ### Whole texts -/

/-- What a character is lowered to in its place in a text. -/
def loweredAt (before : List Char) (c : Char) (cs : List Char) : List Char :=
  if c = 'Σ' then [if wordGoesOn before && !wordGoesOn cs then 'ς' else 'σ'] else lowerChar c

theorem lowerAfter_cons (before : List Char) (c : Char) (cs : List Char) :
    lowerAfter before (c :: cs) = loweredAt before c cs ++ lowerAfter (c :: before) cs := rfl

theorem isLowering_loweredAt (before : List Char) (c : Char) (cs : List Char) :
    IsLowering c (loweredAt before c cs) := by
  rw [loweredAt]
  split
  · have hsigma : ∀ d ∈ ['ς', 'σ'], lowerChar d = [d] ∧ isBlank d = false :=
      fun d hd => small_of_mem_rules (List.mem_append_right ['i', Char.ofNat 0x307] hd)
    split
    · exact isLowering_singleton (hsigma 'ς' (by simp)).1 fun _ => (hsigma 'ς' (by simp)).2
    · exact isLowering_singleton (hsigma 'σ' (by simp)).1 fun _ => (hsigma 'σ' (by simp)).2
  · exact isLowering_lowerChar c

theorem lowerAfter_small (before cs : List Char) :
    ∀ d ∈ lowerAfter before cs, lowerChar d = [d] := by
  induction cs generalizing before with
  | nil => exact List.forall_mem_nil _
  | cons c cs ih =>
    rw [lowerAfter_cons, List.forall_mem_append]
    exact ⟨(isLowering_loweredAt before c cs).small, ih (c :: before)⟩

theorem lowerAfter_eq_self (h : ∀ c ∈ cs, lowerChar c = [c]) : lowerAfter before cs = cs := by
  induction cs generalizing before with
  | nil => rfl
  | cons c cs ih =>
    rw [List.forall_mem_cons] at h
    have hsigma : c ≠ 'Σ' := by
      rintro rfl
      exact small_of_rules.2 h.1
    rw [lowerAfter_cons, loweredAt, if_neg hsigma, h.1, ih h.2]
    rfl

/-- **Lowercasing is idempotent.** -/
theorem lower_lower (s : String) : lower (lower s) = lower s := by
  simp only [lower, lowerChars, String.toList_ofList, lowerAfter_eq_self (lowerAfter_small [] _)]

/-! ### The ends of a text -/

/-- The last character of a text is lowered to what ends the lowered text. -/
theorem lowerAfter_concat (before cs : List Char) (c : Char) :
    ∃ lead ds, lowerAfter before (cs ++ [c]) = lead ++ ds ∧ IsLowering c ds := by
  induction cs generalizing before with
  | nil => exact ⟨[], _, by simp [lowerAfter_cons, lowerAfter], isLowering_loweredAt before c []⟩
  | cons first cs ih =>
    obtain ⟨lead, ds, hlower, hds⟩ := ih (first :: before)
    refine ⟨loweredAt before first (cs ++ [c]) ++ lead, ds, ?_, hds⟩
    rw [List.cons_append, lowerAfter_cons, hlower, List.append_assoc]

theorem unblanked_lowerAfter (h : Unblanked cs) : Unblanked (lowerAfter before cs) := by
  constructor
  · cases cs with
    | nil => exact fun c hc => absurd hc (by simp [lowerAfter])
    | cons c cs =>
      have hlowering := isLowering_loweredAt before c cs
      intro d hd
      rw [lowerAfter_cons, List.head?_append] at hd
      obtain ⟨first, rest, hfirst⟩ := List.exists_cons_of_ne_nil hlowering.nonempty
      rw [hfirst] at hd
      obtain rfl : first = d := Option.some.inj hd
      exact hlowering.nonblank (h.head c rfl) first (hfirst ▸ List.mem_cons_self)
  · obtain rfl | ⟨front, c, rfl⟩ := List.eq_nil_or_concat cs
    · exact fun c hc => absurd hc (by simp [lowerAfter])
    · rw [List.concat_eq_append] at h ⊢
      obtain ⟨lead, ds, hlower, hds⟩ := lowerAfter_concat before front c
      intro d hd
      rw [hlower, List.getLast?_append_of_ne_nil _ hds.nonempty] at hd
      exact hds.nonblank (h.last c (by simp)) d (List.mem_of_getLast? hd)

/-- **Lowercasing makes no blanks at the ends.** -/
theorem trim_lower_trim (s : String) : trim (lower (trim s)) = lower (trim s) := by
  have hends : Unblanked (lowerChars (trimChars s.toList)) :=
    unblanked_lowerAfter (unblanked_trimChars _)
  simp only [trim, lower, String.toList_ofList, trimChars_eq_self hends]

end TimedTrials.Text
