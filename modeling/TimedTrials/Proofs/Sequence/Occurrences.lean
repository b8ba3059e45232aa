/-
  TimedTrials/Proofs/Sequence/Occurrences.lean
  ============================================
  **How often a trial comes up.**

  In a table whose blocks have different numbers and whose trials know their block, a trial is
  emitted at one block only, the one that leads it: its own, or the leader of its section. So
  it comes up in one pass as often as its block is repeated (`count_pass`), and in the whole
  sequence so many times for each pass (`Emitted.count`).
-/
import Mathlib.Algebra.BigOperators.Group.List.Lemmas
import TimedTrials.Proofs.Sequence.Emission
import TimedTrials.Proofs.Sequence.Sections

namespace TimedTrials.TrialTable

/-- A table whose trials all have one place: no number is used twice, and no trial. -/
structure Numbered (t : TrialTable) : Prop where
  distinct : (t.blocks.map (·.number)).Nodup
  trials : ∀ b ∈ t.blocks, ∀ spec ∈ b.trials, spec.block = b.number
  nodup : ∀ b ∈ t.blocks, b.trials.Nodup

variable {t : TrialTable} {b c : Block} {spec : TrialSpec}

theorem Numbered.eq_of_number (h : t.Numbered) (hb : b ∈ t.blocks) (hc : c ∈ t.blocks)
    (heq : b.number = c.number) : b = c :=
  List.inj_on_of_nodup_map h.distinct hb hc heq

theorem kind_eq_of_number (h : b.number = c.number) : b.kind = c.kind := by
  simp only [Block.kind, h]

/-- Among blocks of the table, those that have a trial are the copies of its block. -/
theorem Numbered.count_trials (h : t.Numbered) (hb : b ∈ t.blocks) (hspec : spec ∈ b.trials)
    {blocks : List Block} (hblocks : ∀ c ∈ blocks, c ∈ t.blocks) :
    (blocks.flatMap (·.trials)).count spec = blocks.count b := by
  induction blocks with
  | nil => rfl
  | cons c rest ih =>
    have hc := hblocks c List.mem_cons_self
    rw [List.flatMap_cons, List.count_append,
      ih fun c hc => hblocks c (List.mem_cons_of_mem _ hc)]
    by_cases heq : c = b
    · subst heq
      rw [List.count_eq_one_of_mem (h.nodup c hc) hspec, List.count_cons_self, Nat.add_comm]
    · have hnot : spec ∉ c.trials := fun hmem =>
        heq (h.eq_of_number hc hb ((h.trials c hc spec hmem).symm.trans (h.trials b hb spec hspec)))
      rw [List.count_eq_zero_of_not_mem hnot, List.count_cons_of_ne heq, Nat.zero_add]

theorem Numbered.count_blocks (h : t.Numbered) (hb : b ∈ t.blocks) : t.blocks.count b = 1 :=
  List.count_eq_one_of_mem h.distinct.of_map hb

/-! ### The leading block -/

/-- The number of the block at which a block's trials are emitted. -/
def leads (sections : List (Int × Section)) (b : Block) : Int :=
  match b.kind with
  | .fixed => b.number
  | .sectioned sectionId => ((sections.lookup sectionId).map (·.leader)).getD b.number

section Kinds

variable {sections : List (Int × Section)} {sectionId : Int} {s : Section}

theorem leads_of_fixed (h : b.kind = .fixed) : leads sections b = b.number := by
  simp only [leads, h]

theorem repeats_of_fixed (h : b.kind = .fixed) : repeats sections b = b.repeatCount := by
  simp only [repeats, h]

theorem leads_of_sectioned (h : b.kind = .sectioned sectionId)
    (hlookup : sections.lookup sectionId = some s) : leads sections b = s.leader := by
  simp only [leads, h, hlookup, Option.map_some, Option.getD_some]

theorem repeats_of_sectioned (h : b.kind = .sectioned sectionId)
    (hlookup : sections.lookup sectionId = some s) : repeats sections b = s.repeatCount := by
  simp only [repeats, h, hlookup, Option.map_some, Option.getD_some]

end Kinds

theorem mem_members {sectionId : Int} :
    b ∈ members t.blocks sectionId ↔ b ∈ t.blocks ∧ b.kind = .sectioned sectionId := by
  simp only [members, List.mem_filter, beq_iff_eq]

/-- A block of a section finds its section. -/
theorem lookup_of_mem {sectionId : Int} (hb : b ∈ t.blocks) (h : b.kind = .sectioned sectionId) :
    ∃ s, t.sections.lookup sectionId = some s ∧ s.Gathers (members t.blocks sectionId) := by
  have hwalked := walked_sections t
  cases hlookup : t.sections.lookup sectionId with
  | some s => exact ⟨s, rfl, hwalked.gathers sectionId s hlookup⟩
  | none =>
    have hmem := mem_members.mpr ⟨hb, h⟩
    rw [hwalked.absent sectionId hlookup] at hmem
    cases hmem

/-- What the leading block of a block is: the block itself when it is fixed, else the one of its
    section with the lowest number. -/
structure Leader (t : TrialTable) (b leader : Block) : Prop where
  mem : leader ∈ t.blocks
  kind : leader.kind = b.kind
  number : leader.number = leads t.sections b
  repeatCount : leader.repeatCount = repeats t.sections b
  fixed : b.kind = .fixed → leader = b
  least : b.kind ≠ .fixed → ∀ c ∈ t.blocks, c.kind = b.kind → leader.number ≤ c.number

theorem exists_leader (hb : b ∈ t.blocks) : ∃ leader, Leader t b leader := by
  cases hkind : b.kind with
  | fixed =>
    exact ⟨b, hb, rfl, (leads_of_fixed hkind).symm, (repeats_of_fixed hkind).symm, fun _ => rfl,
      fun hne => absurd hkind hne⟩
  | sectioned sectionId =>
    obtain ⟨s, hlookup, hgathers⟩ := lookup_of_mem hb hkind
    obtain ⟨leader, hfind, hrepeat⟩ := Option.map_eq_some_iff.mp hgathers.repeatCount
    have hnumber : leader.number = s.leader := by
      simpa using List.find?_some hfind
    obtain ⟨hmem, hleader⟩ := mem_members.mp (List.mem_of_find?_eq_some hfind)
    refine ⟨leader, hmem, hleader.trans hkind.symm, ?_, ?_, ?_, ?_⟩
    · rw [leads_of_sectioned hkind hlookup, hnumber]
    · rw [repeats_of_sectioned hkind hlookup, hrepeat]
    · intro hfixed
      rw [hkind] at hfixed
      cases hfixed
    · intro _ c hc hckind
      rw [hnumber]
      exact hgathers.least c (mem_members.mpr ⟨hc, hckind.trans hkind⟩)

theorem kind_of_leads (hb : b ∈ t.blocks) (h : c.number = leads t.sections b) :
    c.kind = b.kind := by
  obtain ⟨leader, hleader⟩ := exists_leader hb
  exact (kind_eq_of_number (h.trans hleader.number.symm)).trans hleader.kind

/-! ### One pass -/

theorem length_counters (n : Nat) : (counters n).length = n := by
  simp only [counters, List.length_map, List.length_range]

/-- Batches that only differ in their counters hold each trial once per counter. -/
theorem count_counters (n : Nat) (grouping : Nat → Grouping) (specs : List TrialSpec)
    (spec : TrialSpec) :
    (((counters n).map fun i => Batch.mk (grouping i) specs).flatMap (·.specs)).count spec
      = n * specs.count spec := by
  rw [List.flatMap_map, List.count_flatMap]
  simp [Function.comp_def, length_counters]

theorem Numbered.count_members (h : t.Numbered) (hb : b ∈ t.blocks) (sectionId : Int) :
    (members t.blocks sectionId).count b = if b.kind = .sectioned sectionId then 1 else 0 := by
  split
  · rename_i hkind
    rw [members, List.count_filter (by simpa using hkind), h.count_blocks hb]
  · rename_i hkind
    exact List.count_eq_zero_of_not_mem fun hmem => hkind (mem_members.mp hmem).2

theorem Numbered.count_batchesAt_of_fixed (h : t.Numbered) (hb : b ∈ t.blocks)
    (hspec : spec ∈ b.trials) (hc : c ∈ t.blocks) (hkind : c.kind = .fixed) :
    ((batchesAt t.sections c).flatMap (·.specs)).count spec
      = if c.number = leads t.sections b then repeats t.sections b else 0 := by
  have hcount : ([c].flatMap (·.trials)).count spec = [c].count b :=
    h.count_trials hb hspec (by simpa using hc)
  rw [List.flatMap_singleton] at hcount
  simp only [batchesAt, hkind]
  rw [count_counters, hcount]
  by_cases heq : c = b
  · subst heq
    rw [leads_of_fixed hkind, repeats_of_fixed hkind, if_pos rfl, List.count_singleton_self,
      Nat.mul_one]
  · have hne : c.number ≠ leads t.sections b := by
      intro hleads
      rw [leads_of_fixed ((kind_of_leads hb hleads).symm.trans hkind)] at hleads
      exact heq (h.eq_of_number hc hb hleads)
    rw [if_neg hne, List.count_singleton, beq_false_of_ne heq]
    exact Nat.mul_zero _

theorem Numbered.count_batchesAt_of_sectioned (h : t.Numbered) (hb : b ∈ t.blocks)
    (hspec : spec ∈ b.trials) (hc : c ∈ t.blocks) {sectionId : Int}
    (hkind : c.kind = .sectioned sectionId) :
    ((batchesAt t.sections c).flatMap (·.specs)).count spec
      = if c.number = leads t.sections b then repeats t.sections b else 0 := by
  obtain ⟨s, hlookup, hgathers⟩ := lookup_of_mem hc hkind
  have hleads : b.kind = .sectioned sectionId → leads t.sections b = s.leader :=
    fun hbkind => leads_of_sectioned hbkind hlookup
  simp only [batchesAt, hkind, hlookup]
  split
  · rename_i hlead
    -- a block that does not lead its section cannot lead the block of the trial either
    have hne : c.number ≠ leads t.sections b := by
      intro heq
      rw [hleads ((kind_of_leads hb heq).symm.trans hkind)] at heq
      exact hlead heq.symm
    rw [if_neg hne]
    rfl
  · rename_i hlead
    have hsub : ∀ d ∈ members t.blocks sectionId, d ∈ t.blocks := fun d hd => (mem_members.mp hd).1
    rw [count_counters, hgathers.blocks, h.count_trials hb hspec hsub, h.count_members hb]
    split
    · rename_i hbkind
      rw [hleads hbkind, if_pos (Decidable.of_not_not hlead).symm,
        repeats_of_sectioned hbkind hlookup, Nat.mul_one]
    · rename_i hbkind
      have hne : c.number ≠ leads t.sections b := fun heq =>
        hbkind ((kind_of_leads hb heq).symm.trans hkind)
      rw [if_neg hne, Nat.mul_zero]

/-- A trial is emitted at the leading block of its block, as often as the block is repeated, and
    nowhere else. -/
theorem Numbered.count_batchesAt (h : t.Numbered) (hb : b ∈ t.blocks) (hspec : spec ∈ b.trials)
    (hc : c ∈ t.blocks) :
    ((batchesAt t.sections c).flatMap (·.specs)).count spec
      = if c.number = leads t.sections b then repeats t.sections b else 0 := by
  cases hkind : c.kind with
  | fixed => exact h.count_batchesAt_of_fixed hb hspec hc hkind
  | sectioned sectionId => exact h.count_batchesAt_of_sectioned hb hspec hc hkind

theorem Numbered.count_pass (h : t.Numbered) (hb : b ∈ t.blocks) (hspec : spec ∈ b.trials) :
    (t.pass.flatMap (·.specs)).count spec = repeats t.sections b := by
  -- only the leading block counts, and it is there once
  obtain ⟨leader, hleader⟩ := exists_leader hb
  let countAt (c : Block) : Nat := ((batchesAt t.sections c).flatMap (·.specs)).count spec
  have hcountAt : ∀ c ∈ t.blocks,
      countAt c = if c.number = leads t.sections b then repeats t.sections b else 0 :=
    fun c hc => h.count_batchesAt hb hspec hc
  have hother : ∀ c, c ≠ leader → c ∈ t.blocks → countAt c = 0 := by
    intro c hne hc
    rw [hcountAt c hc, if_neg]
    intro heq
    exact hne (h.eq_of_number hc hleader.mem (heq.trans hleader.number.symm))
  calc (t.pass.flatMap (·.specs)).count spec
      = (t.blocks.map countAt).sum := by
        rw [pass, List.flatMap_assoc, List.count_flatMap]
        rfl
    _ = t.blocks.count leader • countAt leader := List.sum_map_eq_nsmul_single leader _ hother
    _ = repeats t.sections b := by
        rw [h.count_blocks hleader.mem, hcountAt leader hleader.mem, if_pos hleader.number, one_nsmul]

/-! ### All passes -/

theorem count_passes (t : TrialTable) (repetitions : Nat) (spec : TrialSpec) :
    ((t.passes repetitions).flatMap (·.2.specs)).count spec
      = repetitions * (t.pass.flatMap (·.specs)).count spec := by
  rw [passes, List.flatMap_assoc, List.count_flatMap]
  simp [Function.comp_def, List.flatMap_map, length_counters]

theorem exists_block_of_mem_batchesAt {batch : Batch} (hc : c ∈ t.blocks)
    (hbatch : batch ∈ batchesAt t.sections c) (hspec : spec ∈ batch.specs) :
    ∃ b ∈ t.blocks, spec ∈ b.trials := by
  cases hkind : c.kind with
  | fixed =>
    simp only [batchesAt, hkind] at hbatch
    obtain ⟨_, _, rfl⟩ := List.mem_map.mp hbatch
    exact ⟨c, hc, hspec⟩
  | sectioned sectionId =>
    obtain ⟨s, hlookup, hgathers⟩ := lookup_of_mem hc hkind
    simp only [batchesAt, hkind, hlookup] at hbatch
    split at hbatch
    · cases hbatch
    · obtain ⟨_, _, rfl⟩ := List.mem_map.mp hbatch
      obtain ⟨b, hb, hspec⟩ := List.mem_flatMap.mp hspec
      exact ⟨b, (mem_members.mp (hgathers.blocks ▸ hb)).1, hspec⟩

/-- Nothing comes up in a sequence but trials of the table. -/
theorem Emitted.exists_block {repetitions : Nat} {trials : List TrialInstance}
    (hemitted : Emitted (t.passes repetitions) trials) (hspec : spec ∈ trials.map (·.spec)) :
    ∃ b ∈ t.blocks, spec ∈ b.trials := by
  obtain ⟨_, hpasses, hspec⟩ := List.mem_flatMap.mp (hemitted.spec_perm.mem_iff.mp hspec)
  obtain ⟨_, _, hnumbered⟩ := List.mem_flatMap.mp hpasses
  obtain ⟨_, hpass, rfl⟩ := List.mem_map.mp hnumbered
  obtain ⟨c, hc, hbatch⟩ := List.mem_flatMap.mp hpass
  exact exists_block_of_mem_batchesAt hc hbatch hspec

/-- A trial comes up in a sequence as often as its block is repeated, times the passes. -/
theorem Emitted.count (h : t.Numbered) {repetitions : Nat} {trials : List TrialInstance}
    (hemitted : Emitted (t.passes repetitions) trials) (hb : b ∈ t.blocks)
    (hspec : spec ∈ b.trials) :
    (trials.map (·.spec)).count spec = repetitions * repeats t.sections b := by
  rw [hemitted.spec_perm.count_eq, count_passes, h.count_pass hb hspec]

end TimedTrials.TrialTable
