/-
  TimedTrials/Proofs/Sequence/FixedBlocks.lean
  ============================================
  **Fixed blocks leave the sections alone.**

  The table of sections is made of the blocks of sections, and chance is used up by batches of
  sections only. So two tables that agree in the blocks of sections draw alike, whatever fixed
  blocks stand before, between and behind these: what the two sequences hold of sections is the
  same but for the positions, and both leave the source of chance in the same state
  (`compileWith_sectionPart`).
-/
import TimedTrials.Proofs.Sequence.SectionHeads

namespace TimedTrials

/-- Whether an instance belongs to a repetition of a section. -/
def TrialInstance.isSectioned (a : TrialInstance) : Bool :=
  match a.grouping with
  | .fixed _ => false
  | .sectioned _ _ => true

namespace TrialTable

variable {γ : Type} {shuffle : Shuffle γ} {t u : TrialTable}

/-- The blocks of all sections, in authored order. -/
def sectionBlocks (t : TrialTable) : List Block := t.blocks.filter (sectionSpan ≤ ·.number)

/-- What a sequence holds of sections, leaving positions aside. -/
def sectionPart (trials : List TrialInstance) : List TrialInstance :=
  (trials.filter (·.isSectioned)).map fun a => { a with sequencePosition := 0 }

theorem sectionPart_append (xs ys : List TrialInstance) :
    sectionPart (xs ++ ys) = sectionPart xs ++ sectionPart ys := by
  simp only [sectionPart, List.filter_append, List.map_append]

theorem sectionPart_numbered (trials : List TrialInstance) :
    sectionPart (numbered trials) = sectionPart trials := by
  have hfilterMap (trials : List TrialInstance) : sectionPart trials =
      (trials.map fun a =>
        if a.isSectioned then some { a with sequencePosition := 0 } else none).filterMap id := by
    rw [sectionPart, ← List.filterMap_eq_map, List.filterMap_filter, List.filterMap_map]
    rfl
  rw [hfilterMap, hfilterMap, map_numbered _ fun _ _ => rfl]

/-! ### Sections -/

theorem foldl_enter_filter (blocks : List Block) (sections : List (Int × Section)) :
    blocks.foldl enter sections =
      (blocks.filter (sectionSpan ≤ ·.number)).foldl enter sections := by
  induction blocks generalizing sections with
  | nil => rfl
  | cons b rest ih =>
    rcases Int.lt_or_le b.number sectionSpan with hfixed | hsectioned
    · have henter : enter sections b = sections := by
        simp only [enter, kind_eq_fixed_iff.mpr hfixed]
      rw [List.foldl_cons, henter, List.filter_cons_of_neg (by simpa using hfixed), ih]
    · rw [List.foldl_cons, List.filter_cons_of_pos (by simpa using hsectioned), List.foldl_cons, ih]

/-- The batches at a block are of sections just when the block is. -/
theorem filter_batchesAt (sections : List (Int × Section)) (b : Block) :
    (batchesAt sections b).filter (·.isSectioned) =
      if sectionSpan ≤ b.number then batchesAt sections b else [] := by
  rcases Int.lt_or_le b.number sectionSpan with hfixed | hsectioned
  · rw [batchesAt_of_fixed hfixed, if_neg (Int.not_le.mpr hfixed), List.filter_eq_nil_iff,
      List.forall_mem_map]
    intro i _
    exact Bool.false_ne_true
  · rw [if_pos hsectioned, List.filter_eq_self]
    intro batch hbatch
    simp only [batchesAt, kind_eq_sectioned_iff.mpr ⟨hsectioned, rfl⟩] at hbatch
    split at hbatch
    · cases hbatch
    · split at hbatch
      · cases hbatch
      · obtain ⟨i, _, rfl⟩ := List.mem_map.mp hbatch
        rfl

theorem flatMap_filter {α β : Type} (p : α → Bool) (f : α → List β) (xs : List α) :
    (xs.filter p).flatMap f = xs.flatMap fun x => if p x then f x else [] := by
  induction xs with
  | nil => rfl
  | cons x rest ih => cases hp : p x <;> simp [hp, ih]

/-- What a pass emits of sections is settled by the blocks of sections. -/
theorem filter_pass (t : TrialTable) : t.pass.filter (·.isSectioned) =
    t.sectionBlocks.flatMap (batchesAt (t.sectionBlocks.foldl enter [])) := by
  rw [pass, sections, foldl_enter_filter, ← sectionBlocks, List.filter_flatMap]
  simp only [filter_batchesAt]
  rw [sectionBlocks, flatMap_filter]
  simp only [decide_eq_true_eq]

theorem filter_passes (hsame : t.sectionBlocks = u.sectionBlocks) (repetitions : Nat) :
    (t.passes repetitions).filter (·.2.isSectioned) =
      (u.passes repetitions).filter (·.2.isSectioned) := by
  have hpass : t.pass.filter (·.isSectioned) = u.pass.filter (·.isSectioned) := by
    rw [filter_pass, filter_pass, hsame]
  simp only [passes, List.filter_flatMap, List.filter_map, Function.comp_def, hpass]

/-! ### Emission -/

theorem sectionPart_instances {batch : Batch} (h : batch.isSectioned = false) (repetition : Nat) :
    sectionPart (batch.instances repetition) = [] := by
  rw [sectionPart, List.map_eq_nil_iff, List.filter_eq_nil_iff, Batch.instances,
    List.forall_mem_map]
  intro spec _ hsectioned
  exact Bool.false_ne_true (h.symm.trans hsectioned)

/-- Batches of fixed blocks can be left out: the others are emitted alike, and draw alike from
    the source of chance. -/
theorem sectionPart_emit (shuffle : Shuffle γ) (randomize : Bool) (batches : List (Nat × Batch))
    (g : γ) :
    sectionPart (emit shuffle randomize batches g).1 =
        sectionPart (emit shuffle randomize (batches.filter (·.2.isSectioned)) g).1 ∧
      (emit shuffle randomize batches g).2 =
        (emit shuffle randomize (batches.filter (·.2.isSectioned)) g).2 := by
  -- for any state of chance, since a batch of a section may have changed it
  induction batches generalizing g with
  | nil => exact ⟨rfl, rfl⟩
  | cons head rest ih =>
    obtain ⟨repetition, batch⟩ := head
    cases hsectioned : batch.isSectioned with
    | false =>
      rw [List.filter_cons_of_neg (by simp [hsectioned])]
      simp only [emit, hsectioned, Bool.and_false, Bool.false_eq_true, if_false,
        sectionPart_append, sectionPart_instances hsectioned, List.nil_append]
      exact ih g
    | true =>
      rw [List.filter_cons_of_pos (by simpa using hsectioned)]
      simp only [emit, sectionPart_append, (ih _).1, (ih _).2, and_self]

/-! ### Two tables -/

theorem eq_emit_of_compileWith {options : SequenceOptions} {g g' : γ} {trials : List TrialInstance}
    (h : t.compileWith shuffle options g = .ok (trials, g')) :
    trials = numbered (emit shuffle options.randomizeSections (t.passes options.repetitions) g).1 ∧
      g' = (emit shuffle options.randomizeSections (t.passes options.repetitions) g).2 := by
  unfold compileWith at h
  cases hroom : t.reserve options.repetitions with
  | error e =>
    rw [hroom] at h
    cases h
  | ok n =>
    rw [hroom] at h
    cases h
    exact ⟨rfl, rfl⟩

/-- **Seeded shuffles pass over fixed blocks.** When two tables that can be run agree in the
    blocks of sections, then under the same options and from the same source of chance their
    sequences hold the same of sections but for the positions, and what is left of chance is
    the same. -/
theorem compileWith_sectionPart {options : SequenceOptions} {g g₁ g₂ : γ}
    {xs ys : List TrialInstance} (hsame : t.sectionBlocks = u.sectionBlocks)
    (ht : t.compileWith shuffle options g = .ok (xs, g₁))
    (hu : u.compileWith shuffle options g = .ok (ys, g₂)) :
    sectionPart xs = sectionPart ys ∧ g₁ = g₂ := by
  obtain ⟨rfl, rfl⟩ := eq_emit_of_compileWith ht
  obtain ⟨rfl, rfl⟩ := eq_emit_of_compileWith hu
  obtain ⟨htrials, hleft⟩ := sectionPart_emit shuffle options.randomizeSections
    (t.passes options.repetitions) g
  obtain ⟨utrials, uleft⟩ := sectionPart_emit shuffle options.randomizeSections
    (u.passes options.repetitions) g
  rw [filter_passes hsame] at htrials hleft
  refine ⟨?_, hleft.trans uleft.symm⟩
  rw [sectionPart_numbered, sectionPart_numbered, htrials, utrials]

/-- A section of two blocks behind a fixed block. -/
def announcedTable : TrialTable :=
  ⟨[⟨1, 1, [.timed 1 1 "+" 100]⟩, ⟨102, 3, [.timed 2 102 "x" 100]⟩,
    ⟨101, 2, [.timed 3 101 "y" 100, .timed 4 101 "z" 100]⟩]⟩

/-- The same section, with other fixed blocks between its two blocks and behind them. -/
def interruptedTable : TrialTable :=
  ⟨[⟨102, 3, [.timed 2 102 "x" 100]⟩, ⟨7, 4, [.timed 5 7 "ready" 100, .timed 6 7 "go" 100]⟩,
    ⟨101, 2, [.timed 3 101 "y" 100, .timed 4 101 "z" 100]⟩, ⟨50, 1, [.timed 7 50 "end" 100]⟩]⟩

theorem compileWith_sectionPart_interrupted :
    announcedTable.sectionBlocks = interruptedTable.sectionBlocks ∧
      ∃ xs ys g₁ g₂,
        announcedTable.compileWith Random.shuffle ⟨2, true⟩ (.cycle [7, 1]) = .ok (xs, g₁) ∧
        interruptedTable.compileWith Random.shuffle ⟨2, true⟩ (.cycle [7, 1]) = .ok (ys, g₂) ∧
        sectionPart xs = sectionPart ys ∧ g₁ = g₂ := by
  have hsame : announcedTable.sectionBlocks = interruptedTable.sectionBlocks := by decide
  obtain ⟨⟨xs, g₁⟩, ht⟩ : ∃ compiled,
      announcedTable.compileWith Random.shuffle ⟨2, true⟩ (.cycle [7, 1]) = .ok compiled := ⟨_, rfl⟩
  obtain ⟨⟨ys, g₂⟩, hu⟩ : ∃ compiled,
      interruptedTable.compileWith Random.shuffle ⟨2, true⟩ (.cycle [7, 1]) = .ok compiled :=
    ⟨_, rfl⟩
  exact ⟨hsame, xs, ys, g₁, g₂, ht, hu, compileWith_sectionPart hsame ht hu⟩

end TrialTable

end TimedTrials
