/-
  TimedTrials/Proofs/Sequence/SectionHeads.lean
  =============================================
  **Where a section is emitted, and as what.**

  The walk looks a section up in the table of sections and compares numbers. Here this is said of
  the blocks alone: a block has the smallest number of its section or it has not, and the first of
  those that have it, the head of the section (`Heads`), supplies the repeat count. Three lemmas,
  `batchesAt_of_fixed`, `batchesAt_of_heads` and `batchesAt_of_not_lowest`, say what the walk emits
  at every block, so that nothing behind them has to open the table of sections again.
-/
import TimedTrials.Proofs.Sequence.Occurrences

namespace TimedTrials.TrialTable

variable {t : TrialTable} {b c head : Block}

/-! ### Tables that can be run -/

/-- What a table has to be in order to be run: it has blocks, and each of them has trials and is
    shown at least once. -/
structure Runnable (t : TrialTable) : Prop where
  nonempty : t.blocks ≠ []
  trials : ∀ b ∈ t.blocks, b.trials ≠ []
  repeated : ∀ b ∈ t.blocks, 1 ≤ b.repeatCount

theorem blockError?_eq_none_iff : blockError? b = none ↔ b.trials ≠ [] ∧ 1 ≤ b.repeatCount := by
  simp only [blockError?, List.isEmpty_iff, Nat.one_le_iff_ne_zero]
  by_cases htrials : b.trials = []
  · simp [htrials]
  · by_cases hrepeat : b.repeatCount = 0
    · simp [htrials, hrepeat]
    · simp [htrials, hrepeat]

theorem sequenceError?_eq_none_iff {repetitions : Nat} :
    t.sequenceError? repetitions = none ↔ t.Runnable ∧ 1 ≤ repetitions := by
  have hblocks : t.blocks.findSome? blockError? = none ↔
      ∀ b ∈ t.blocks, b.trials ≠ [] ∧ 1 ≤ b.repeatCount := by
    simp only [List.findSome?_eq_none_iff, blockError?_eq_none_iff]
  unfold sequenceError?
  split
  · rename_i hzero
    simp [hzero]
  · rename_i hpos
    split
    · rename_i hempty
      have hnil : t.blocks = [] := List.isEmpty_iff.mp hempty
      simp only [reduceCtorEq, false_iff, not_and]
      exact fun hrunnable => absurd hnil hrunnable.nonempty
    · rename_i hsome
      rw [hblocks]
      constructor
      · intro h
        have hnonempty : t.blocks ≠ [] := fun hnil => hsome (List.isEmpty_iff.mpr hnil)
        exact ⟨⟨hnonempty, fun b hb => (h b hb).1, fun b hb => (h b hb).2⟩,
          Nat.one_le_iff_ne_zero.mpr hpos⟩
      · exact fun h b hb => ⟨h.1.trials b hb, h.1.repeated b hb⟩

/-! ### Sections by their numbers -/

/-- The blocks of a block's section in authored order. -/
def sectionOf (t : TrialTable) (b : Block) : List Block :=
  t.blocks.filter fun c => c.number / sectionSpan == b.number / sectionSpan

/-- A block has the smallest number of its section. -/
def IsLowest (t : TrialTable) (b : Block) : Prop := ∀ c ∈ t.sectionOf b, b.number ≤ c.number

instance (t : TrialTable) (b : Block) : Decidable (t.IsLowest b) := List.decidableBAll _ _

theorem mem_sectionOf : c ∈ t.sectionOf b ↔
    c ∈ t.blocks ∧ c.number / sectionSpan = b.number / sectionSpan := by
  simp only [sectionOf, List.mem_filter, beq_iff_eq]

theorem sectionOf_congr (h : c.number / sectionSpan = b.number / sectionSpan) :
    t.sectionOf c = t.sectionOf b := by
  simp only [sectionOf, h]

theorem isLowest_congr (h : c.number = b.number) : t.IsLowest c ↔ t.IsLowest b := by
  simp only [IsLowest, sectionOf_congr (congrArg (· / sectionSpan) h), h]

theorem kind_eq_fixed_iff : b.kind = .fixed ↔ b.number < sectionSpan := by
  unfold Block.kind BlockKind.of
  split <;> simp [*]

theorem kind_eq_sectioned_iff {sectionId : Int} : b.kind = .sectioned sectionId ↔
    sectionSpan ≤ b.number ∧ b.number / sectionSpan = sectionId := by
  unfold Block.kind BlockKind.of
  split
  · rename_i hlt
    simp [Int.not_le.mpr hlt]
  · rename_i hge
    simp [Int.not_lt.mp hge]

/-- Whoever shares the hundreds of a block of a section belongs to a section too. -/
theorem sectionSpan_le_of_div_eq (hb : sectionSpan ≤ b.number)
    (h : c.number / sectionSpan = b.number / sectionSpan) : sectionSpan ≤ c.number := by
  simp only [sectionSpan] at *
  omega

/-- Blocks share a section when their hundreds are the same. -/
theorem kind_eq_iff_of_sectioned (h : b.kind ≠ .fixed) :
    c.kind = b.kind ↔ c.number / sectionSpan = b.number / sectionSpan := by
  rw [ne_eq, kind_eq_fixed_iff, Int.not_lt] at h
  rw [kind_eq_sectioned_iff.mpr ⟨h, rfl⟩, kind_eq_sectioned_iff]
  exact and_iff_right_of_imp (sectionSpan_le_of_div_eq h)

theorem members_eq_sectionOf (hb : sectionSpan ≤ b.number) :
    members t.blocks (b.number / sectionSpan) = t.sectionOf b := by
  refine List.filter_congr fun c _ => ?_
  rw [Bool.eq_iff_iff, beq_iff_eq, beq_iff_eq, kind_eq_sectioned_iff]
  exact and_iff_right_of_imp (sectionSpan_le_of_div_eq hb)

/-! ### The head of a section -/

/-- A block heads its section: it is the first one of the smallest number. -/
structure Heads (t : TrialTable) (head : Block) : Prop where
  sectioned : sectionSpan ≤ head.number
  lowest : t.IsLowest head
  first : t.blocks.find? (·.number == head.number) = some head

theorem Heads.mem (h : t.Heads head) : head ∈ t.blocks := List.mem_of_find?_eq_some h.first

/-- Whatever else is the lowest of the section has the number of the head. -/
theorem Heads.eq_number (h : t.Heads head) (hc : c ∈ t.blocks)
    (hsection : head.number / sectionSpan = c.number / sectionSpan) (hlowest : t.IsLowest c) :
    c.number = head.number :=
  Int.le_antisymm (hlowest head (mem_sectionOf.mpr ⟨h.mem, hsection⟩))
    (h.lowest c (mem_sectionOf.mpr ⟨hc, hsection.symm⟩))

theorem Heads.eq {other : Block} (h : t.Heads head) (hother : t.Heads other)
    (hsection : head.number / sectionSpan = other.number / sectionSpan) : head = other := by
  have hfirst := hother.first
  rw [h.eq_number hother.mem hsection hother.lowest, h.first] at hfirst
  exact Option.some.inj hfirst

/-- Whoever has a number of the section is in the section, so the first one there is the first
    one of all. -/
theorem find?_sectionOf {number : Int} (h : number / sectionSpan = b.number / sectionSpan) :
    (t.sectionOf b).find? (·.number == number) = t.blocks.find? (·.number == number) := by
  rw [sectionOf, List.find?_filter]
  congr 1
  funext c
  rw [Bool.eq_iff_iff, decide_eq_true_iff, beq_iff_eq, beq_iff_eq]
  exact and_iff_right_of_imp fun heq => heq ▸ h

/-- Every section has its head, and the table of sections holds the number and the repeat count of
    this block. -/
theorem exists_heads (hb : b ∈ t.blocks) (hsectioned : sectionSpan ≤ b.number) :
    ∃ head, t.Heads head ∧ head.number / sectionSpan = b.number / sectionSpan ∧
      t.sections.lookup (b.number / sectionSpan) =
        some ⟨head.number, head.repeatCount, t.sectionOf b⟩ := by
  obtain ⟨⟨leader, repeatCount, blocks⟩, hlookup, hblocks, hleast, hrepeat⟩ :=
    lookup_of_mem hb (kind_eq_sectioned_iff.mpr ⟨hsectioned, rfl⟩)
  rw [members_eq_sectionOf hsectioned] at hblocks hleast hrepeat
  simp only at hblocks hleast hrepeat
  obtain ⟨head, hfind, rfl⟩ := Option.map_eq_some_iff.mp hrepeat
  obtain rfl : head.number = leader := by simpa using List.find?_some hfind
  obtain ⟨_, hsection⟩ := mem_sectionOf.mp (List.mem_of_find?_eq_some hfind)
  refine ⟨head, ⟨sectionSpan_le_of_div_eq hsectioned hsection, ?_, ?_⟩, hsection, ?_⟩
  · intro c hc
    exact hleast c (sectionOf_congr hsection ▸ hc)
  · exact (find?_sectionOf hsection).symm.trans hfind
  · rw [hlookup, hblocks]

theorem Heads.lookup (h : t.Heads head) : t.sections.lookup (head.number / sectionSpan) =
    some ⟨head.number, head.repeatCount, t.sectionOf head⟩ := by
  obtain ⟨other, hother, hsection, hlookup⟩ := exists_heads h.mem h.sectioned
  rw [hlookup, hother.eq h hsection]

/-! ### What is emitted at a block -/

theorem batchesAt_of_fixed {sections : List (Int × Section)} (h : b.number < sectionSpan) :
    batchesAt sections b = (counters b.repeatCount).map fun i => ⟨.fixed i, b.trials⟩ := by
  simp only [batchesAt, kind_eq_fixed_iff.mpr h]

/-- Wherever the number of the head stands the section is emitted, as often as the head says. -/
theorem batchesAt_of_heads (h : t.Heads head) (hc : c.number = head.number) :
    batchesAt t.sections c = (counters head.repeatCount).map fun i =>
      ⟨.sectioned (head.number / sectionSpan) i, (t.sectionOf head).flatMap (·.trials)⟩ := by
  have hkind : c.kind = .sectioned (head.number / sectionSpan) :=
    kind_eq_sectioned_iff.mpr ⟨hc ▸ h.sectioned, by rw [hc]⟩
  simp only [batchesAt, hkind, h.lookup, hc, ne_eq, not_true_eq_false, if_false]

theorem batchesAt_of_not_lowest (hc : c ∈ t.blocks) (hsectioned : sectionSpan ≤ c.number)
    (h : ¬ t.IsLowest c) : batchesAt t.sections c = [] := by
  obtain ⟨head, hhead, hsection, hlookup⟩ := exists_heads hc hsectioned
  have hkind : c.kind = .sectioned (c.number / sectionSpan) :=
    kind_eq_sectioned_iff.mpr ⟨hsectioned, rfl⟩
  have hne : head.number ≠ c.number := fun heq => h ((isLowest_congr heq).mp hhead.lowest)
  simp only [batchesAt, hkind, hlookup, ne_eq, hne, not_false_eq_true, if_true]

end TimedTrials.TrialTable
