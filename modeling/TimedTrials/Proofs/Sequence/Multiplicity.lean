/-
  TimedTrials/Proofs/Sequence/Multiplicity.lean
  =============================================
  **How often a section comes up, and how long the sequence is.**

  The walk emits a section at every block that has the number of its head. As long as no other
  block has this number, each section repetition is emitted once and the sequence is as long as
  expected. Blocks that are added whole may use a number again: then the whole section comes up
  once for each of them (`Emitted.tagged_of_heads`), while the expected length counts it once
  (`Emitted.length_eq_add`). `compileWith_multiplicity` says for every table that can be built how
  long the sequence is and what stands under which tag, and that a number used again is the only
  thing that can make the two differ.
-/
import Mathlib.Algebra.BigOperators.Group.Multiset.Basic
import Mathlib.Algebra.BigOperators.Ring.List
import TimedTrials.Proofs.Sequence.Counting

namespace TimedTrials.TrialTable

variable {t : TrialTable} {b c head : Block} {repetitions : Nat} {trials : List TrialInstance}

/-! ### Under one tag -/

theorem flatMap_ite_const {α β : Type} (p : α → Prop) [DecidablePred p] (xs : List α)
    (ys : List β) : (xs.flatMap fun x => if p x then ys else []) =
      (List.replicate (xs.countP (p ·)) ys).flatten := by
  induction xs with
  | nil => rfl
  | cons x xs ih =>
    rw [List.flatMap_cons, ih]
    by_cases h : p x
    · simp [h, List.replicate_succ]
    · simp [h]

theorem counters_succ (n : Nat) : counters (n + 1) = counters n ++ [n + 1] := by
  rw [counters, List.range_succ, List.map_append, List.map_singleton, ← counters]

/-- Of all the counters one has this value, if it is within the count. -/
theorem flatMap_counters_ite {α : Type} (n i : Nat) (xs : List α) :
    ((counters n).flatMap fun j => if j = i then xs else []) =
      if 1 ≤ i ∧ i ≤ n then xs else [] := by
  induction n with
  | zero =>
    rw [if_neg (by omega)]
    rfl
  | succ n ih =>
    rw [counters_succ, List.flatMap_append, ih, List.flatMap_singleton]
    by_cases hlast : n + 1 = i
    · rw [if_neg (by omega), if_pos hlast, if_pos (by omega), List.nil_append]
    · simp only [hlast, if_false, List.append_nil]
      exact if_congr (by omega) rfl rfl

/-- The trials of a batch, if it has this tag. -/
def Batch.under (grouping : Grouping) (batch : Batch) : List TrialSpec :=
  if batch.grouping = grouping then batch.specs else []

theorem tagged_instances (repetition own : Nat) (grouping : Grouping) (batch : Batch) :
    tagged repetition grouping (batch.instances own) =
      if own = repetition then batch.under grouping else [] := by
  by_cases hown : own = repetition
  · by_cases hgrouping : batch.grouping = grouping
    · simp [tagged, Batch.instances, Batch.under, List.filter_map, Function.comp_def, hown,
        hgrouping]
    · simp [tagged, Batch.instances, Batch.under, List.filter_map, Function.comp_def, hgrouping]
  · simp [tagged, Batch.instances, List.filter_map, Function.comp_def, hown]

/-- The trials under a tag are those of the batches that have it. -/
theorem Emitted.tagged_perm_under {batches : List (Nat × Batch)} (h : Emitted batches trials)
    (repetition : Nat) (grouping : Grouping) : (tagged repetition grouping trials).Perm
      (batches.flatMap fun p => if p.1 = repetition then p.2.under grouping else []) := by
  induction h with
  | nil => exact List.Perm.refl _
  | @cons own batch rest run tail hperm _ _ ih =>
    rw [tagged_append, List.flatMap_cons, ← tagged_instances]
    exact (TrialTable.tagged_perm hperm repetition grouping).append ih

/-- A tag is found in the pass that it names, if there is such a pass. -/
theorem passes_under (t : TrialTable) (repetitions repetition : Nat) (grouping : Grouping) :
    ((t.passes repetitions).flatMap fun p =>
        if p.1 = repetition then p.2.under grouping else []) =
      if 1 ≤ repetition ∧ repetition ≤ repetitions then t.pass.flatMap (Batch.under grouping)
      else [] := by
  rw [passes, List.flatMap_assoc, ← flatMap_counters_ite]
  refine List.flatMap_congr fun r _ => ?_
  rw [List.flatMap_map]
  by_cases hr : r = repetition
  · simp only [hr, if_true]
  · simp [hr]

/-- Of the batches of a section one has this counter, if it is within the count. -/
theorem counters_under (n : Nat) (own sectionId : Int) (i : Nat) (specs : List TrialSpec) :
    ((counters n).map fun j => Batch.mk (.sectioned own j) specs).flatMap
        (Batch.under (.sectioned sectionId i)) =
      if own = sectionId ∧ 1 ≤ i ∧ i ≤ n then specs else [] := by
  rw [List.flatMap_map]
  by_cases hown : own = sectionId
  · simp only [hown, true_and, Batch.under, Grouping.sectioned.injEq, flatMap_counters_ite]
  · simp [hown, Batch.under]

/-- At a block a section is emitted just when the block has the number of its head. -/
theorem batchesAt_under (h : t.Heads head) (hc : c ∈ t.blocks) (i : Nat) :
    (batchesAt t.sections c).flatMap
        (Batch.under (.sectioned (head.number / sectionSpan) i)) =
      if c.number = head.number then
        if 1 ≤ i ∧ i ≤ head.repeatCount then (t.sectionOf head).flatMap (·.trials) else []
      else [] := by
  rcases Int.lt_or_le c.number sectionSpan with hfixed | hsectioned
  · have hne : c.number ≠ head.number := Int.ne_of_lt (Int.lt_of_lt_of_le hfixed h.sectioned)
    rw [batchesAt_of_fixed hfixed, if_neg hne, List.flatMap_map]
    simp [Batch.under]
  · by_cases hlowest : t.IsLowest c
    · -- `c` has the number of the head of its own section, which may be another one
      obtain ⟨own, hown, hsection, _⟩ := exists_heads hc hsectioned
      have hnumber : c.number = own.number := hown.eq_number hc hsection hlowest
      rw [batchesAt_of_heads hown hnumber, counters_under]
      by_cases hsame : own.number / sectionSpan = head.number / sectionSpan
      · rw [hown.eq h hsame] at hnumber ⊢
        simp only [hnumber, true_and, if_true]
      · have hne : c.number ≠ head.number := fun heq =>
          hsame (congrArg (· / sectionSpan) (hnumber.symm.trans heq))
        rw [if_neg hne, if_neg fun hand => hsame hand.1]
    · have hne : c.number ≠ head.number := fun heq =>
        hlowest ((isLowest_congr heq).mpr h.lowest)
      rw [batchesAt_of_not_lowest hc hsectioned hlowest, if_neg hne, List.flatMap_nil]

/-- How many blocks have a number. -/
def copies (t : TrialTable) (number : Int) : Nat := t.blocks.countP (·.number = number)

/-- In every pass each section repetition comes up once for every block that has the number of the
    section's head; under any other tag of the section stands nothing. -/
theorem Emitted.tagged_of_heads (hemitted : Emitted (t.passes repetitions) trials)
    (h : t.Heads head) (repetition i : Nat) :
    (tagged repetition (.sectioned (head.number / sectionSpan) i) trials).Perm
      (if (1 ≤ repetition ∧ repetition ≤ repetitions) ∧ 1 ≤ i ∧ i ≤ head.repeatCount then
        (List.replicate (t.copies head.number) ((t.sectionOf head).flatMap (·.trials))).flatten
      else []) := by
  have hpass : t.pass.flatMap (Batch.under (.sectioned (head.number / sectionSpan) i)) =
      if 1 ≤ i ∧ i ≤ head.repeatCount then
        (List.replicate (t.copies head.number) ((t.sectionOf head).flatMap (·.trials))).flatten
      else [] := by
    rw [pass, List.flatMap_assoc, List.flatMap_congr fun c hc => batchesAt_under h hc i,
      flatMap_ite_const]
    split
    · rfl
    · exact List.flatten_replicate_nil
  refine (hemitted.tagged_perm_under repetition _).trans (.of_eq ?_)
  rw [passes_under, hpass]
  exact (ite_and ..).symm

/-! ### Length -/

/-- Whether the trials of a block are emitted with its section at another block. -/
def EmittedAt (t : TrialTable) (b c : Block) : Prop :=
  sectionSpan ≤ b.number ∧ c.number = leads t.sections b

instance (t : TrialTable) (b c : Block) : Decidable (t.EmittedAt b c) :=
  inferInstanceAs (Decidable (_ ∧ _))

theorem Heads.leads_eq (h : t.Heads head)
    (hsection : b.number / sectionSpan = head.number / sectionSpan) :
    leads t.sections b = head.number :=
  leads_of_sectioned (kind_eq_sectioned_iff.mpr
    ⟨sectionSpan_le_of_div_eq h.sectioned hsection, hsection⟩) h.lookup

theorem Heads.share_eq (h : t.Heads head)
    (hsection : b.number / sectionSpan = head.number / sectionSpan) :
    t.share b = b.trials.length * head.repeatCount := by
  rw [share, repeats_of_sectioned (kind_eq_sectioned_iff.mpr
    ⟨sectionSpan_le_of_div_eq h.sectioned hsection, hsection⟩) h.lookup]

/-- A block of a section is emitted at the blocks that have the number of the section's head. -/
theorem emittedAt_iff (hb : b ∈ t.blocks) : t.EmittedAt b c ↔
    ∃ head, t.Heads head ∧ b.number / sectionSpan = head.number / sectionSpan ∧
      c.number = head.number := by
  constructor
  · rintro ⟨hsectioned, hnumber⟩
    obtain ⟨head, hhead, hsection, _⟩ := exists_heads hb hsectioned
    exact ⟨head, hhead, hsection.symm, hnumber.trans (hhead.leads_eq hsection.symm)⟩
  · rintro ⟨head, hhead, hsection, hnumber⟩
    exact ⟨sectionSpan_le_of_div_eq hhead.sectioned hsection,
      hnumber.trans (hhead.leads_eq hsection).symm⟩

theorem length_counters_specs (n : Nat) (grouping : Nat → Grouping) (specs : List TrialSpec) :
    (((counters n).map fun i => Batch.mk (grouping i) specs).flatMap (·.specs)).length =
      specs.length * n := by
  simp only [List.flatMap_map, List.length_flatMap, List.map_const', List.sum_replicate_nat,
    length_counters, Nat.mul_comm]

/-- A section that is emitted at a block comes with the shares of all its blocks. -/
theorem Heads.sum_emittedAt (h : t.Heads head) (hnumber : c.number = head.number) :
    (t.blocks.map fun b => if t.EmittedAt b c then t.share b else 0).sum =
      ((t.sectionOf head).flatMap (·.trials)).length * head.repeatCount := by
  have hfilter : t.blocks.filter (t.EmittedAt · c) = t.sectionOf head := by
    refine List.filter_congr fun b hb => ?_
    rw [Bool.eq_iff_iff, decide_eq_true_iff, beq_iff_eq, emittedAt_iff hb]
    constructor
    · rintro ⟨other, _, hsection, hother⟩
      rw [hsection, ← hother, hnumber]
    · exact fun hsection => ⟨head, h, hsection, hnumber⟩
  have hshare : (t.sectionOf head).map t.share =
      (t.sectionOf head).map fun b => b.trials.length * head.repeatCount :=
    List.map_congr_left fun b hb => h.share_eq (mem_sectionOf.mp hb).2
  rw [List.sum_map_ite, hfilter, hshare, List.sum_map_mul_right, List.length_flatMap,
    List.map_const', List.sum_replicate_nat, Nat.mul_zero, Nat.add_zero]

/-- What is emitted at a block: its own trials when it is fixed, and else the sections that are
    emitted at it. -/
theorem length_batchesAt (hc : c ∈ t.blocks) :
    ((batchesAt t.sections c).flatMap (·.specs)).length =
      (if c.number < sectionSpan then t.share c else 0) +
        (t.blocks.map fun b => if t.EmittedAt b c then t.share b else 0).sum := by
  have hnone (hnot : ∀ head, t.Heads head → c.number ≠ head.number) :
      (t.blocks.map fun b => if t.EmittedAt b c then t.share b else 0).sum = 0 := by
    rw [List.sum_eq_zero_iff_forall_eq_nat, List.forall_mem_map]
    intro b hb
    rw [if_neg]
    rw [emittedAt_iff hb]
    exact fun ⟨head, hhead, _, hnumber⟩ => hnot head hhead hnumber
  rcases Int.lt_or_le c.number sectionSpan with hfixed | hsectioned
  · rw [batchesAt_of_fixed hfixed, length_counters_specs, if_pos hfixed, share,
      repeats_of_fixed (kind_eq_fixed_iff.mpr hfixed), hnone, Nat.add_zero]
    exact fun head hhead => Int.ne_of_lt (Int.lt_of_lt_of_le hfixed hhead.sectioned)
  · rw [if_neg (Int.not_lt.mpr hsectioned), Nat.zero_add]
    by_cases hlowest : t.IsLowest c
    · obtain ⟨head, hhead, hsection, _⟩ := exists_heads hc hsectioned
      have hnumber : c.number = head.number := hhead.eq_number hc hsection hlowest
      rw [batchesAt_of_heads hhead hnumber, length_counters_specs, hhead.sum_emittedAt hnumber]
    · rw [batchesAt_of_not_lowest hc hsectioned hlowest, hnone]
      · rfl
      · exact fun head hhead heq => hlowest ((isLowest_congr heq).mpr hhead.lowest)

/-- How often a block is emitted for once that it should be: a fixed block once, and a block of a
    section once for every block that has the number of the section's head. -/
def emissions (t : TrialTable) (b : Block) : Nat :=
  if b.number < sectionSpan then 1 else t.copies (leads t.sections b)

theorem sum_map_ite_const {α : Type} (p : α → Prop) [DecidablePred p] (xs : List α) (n : Nat) :
    (xs.map fun x => if p x then n else 0).sum = xs.countP (p ·) * n := by
  rw [List.sum_map_ite, List.map_const', List.map_const', List.sum_replicate_nat,
    List.sum_replicate_nat, Nat.mul_zero, Nat.add_zero, List.countP_eq_length_filter]

/-- One pass holds the share of each block as often as it is emitted. -/
theorem length_specs_pass (t : TrialTable) : (t.pass.flatMap (·.specs)).length =
    (t.blocks.map fun b => t.emissions b * t.share b).sum := by
  have hswap := Multiset.sum_map_sum_map (t.blocks : Multiset Block) (t.blocks : Multiset Block)
    (f := fun c b => if t.EmittedAt b c then t.share b else 0)
  simp only [Multiset.map_coe, Multiset.sum_coe] at hswap
  rw [pass, List.flatMap_assoc, List.length_flatMap, List.map_congr_left fun c hc =>
    length_batchesAt hc, List.sum_map_add, hswap, ← List.sum_map_add]
  refine congrArg List.sum (List.map_congr_left fun b _ => ?_)
  rw [emissions]
  rcases Int.lt_or_le b.number sectionSpan with hfixed | hsectioned
  · simp [hfixed, EmittedAt, Int.not_le.mpr hfixed]
  · simp only [EmittedAt, hsectioned, true_and, sum_map_ite_const, Int.not_lt.mpr hsectioned,
      if_false, copies, Nat.zero_add]

theorem Emitted.length_eq (hemitted : Emitted (t.passes repetitions) trials) :
    trials.length = (t.blocks.map fun b => t.emissions b * t.share b).sum * repetitions := by
  have hspecs := hemitted.spec_perm.length_eq
  rw [List.length_map] at hspecs
  rw [hspecs, passes, List.flatMap_assoc, ← length_specs_pass, List.length_flatMap]
  simp only [List.flatMap_map, List.map_const', List.sum_replicate_nat, length_counters,
    Nat.mul_comm]

/-! ### Heads whose number stands once -/

/-- No number of a head is used again. -/
def SoleHeads (t : TrialTable) : Prop := ∀ head, t.Heads head → t.copies head.number = 1

/-- Every section repetition of every pass is in the sequence once: under its tag stand the trials
    of the section's blocks, each as often as the blocks hold it. -/
def EmitsOnce (t : TrialTable) (repetitions : Nat) (trials : List TrialInstance) : Prop :=
  ∀ head, t.Heads head → ∀ repetition i, 1 ≤ repetition → repetition ≤ repetitions → 1 ≤ i →
    i ≤ head.repeatCount →
    (tagged repetition (.sectioned (head.number / sectionSpan) i) trials).Perm
      ((t.sectionOf head).flatMap (·.trials))

theorem Heads.copies_pos (h : t.Heads head) : 1 ≤ t.copies head.number :=
  List.countP_pos_iff.mpr ⟨head, h.mem, by simp⟩

theorem soleHeads_of_nodup (h : (t.blocks.map (·.number)).Nodup) : t.SoleHeads := by
  intro head hhead
  have hcount := List.count_eq_one_of_mem h (List.mem_map_of_mem hhead.mem)
  rw [List.count_eq_countP, List.countP_map] at hcount
  rw [copies, ← hcount]
  exact List.countP_congr fun b _ => by simp

theorem soleHeads_iff : t.SoleHeads ↔ ∀ b ∈ t.blocks, t.emissions b = 1 := by
  constructor
  · intro h b hb
    rw [emissions]
    split
    · rfl
    · rename_i hge
      obtain ⟨head, hhead, hsection, _⟩ := exists_heads hb (Int.not_lt.mp hge)
      rw [hhead.leads_eq hsection.symm, h head hhead]
  · intro h head hhead
    have hone := h head hhead.mem
    rwa [emissions, if_neg (Int.not_lt.mpr hhead.sectioned), hhead.leads_eq rfl] at hone

theorem emissions_pos (hb : b ∈ t.blocks) : 1 ≤ t.emissions b := by
  rw [emissions]
  split
  · exact Nat.le_refl 1
  · rename_i hge
    obtain ⟨head, hhead, hsection, _⟩ := exists_heads hb (Int.not_lt.mp hge)
    rw [hhead.leads_eq hsection.symm]
    exact hhead.copies_pos

theorem Runnable.share_pos (h : t.Runnable) (hb : b ∈ t.blocks) : 1 ≤ t.share b := by
  refine Nat.mul_pos (List.length_pos_iff.mpr (h.trials b hb)) ?_
  obtain ⟨leader, hleader⟩ := exists_leader hb
  exact hleader.repeatCount ▸ h.repeated leader hleader.mem

theorem sum_map_mul_eq {α : Type} (f w : α → Nat) (xs : List α) (hf : ∀ x ∈ xs, 1 ≤ f x) :
    (xs.map fun x => f x * w x).sum = (xs.map w).sum + (xs.map fun x => (f x - 1) * w x).sum := by
  rw [← List.sum_map_add]
  refine congrArg List.sum (List.map_congr_left fun x hx => ?_)
  obtain ⟨n, hn⟩ := Nat.exists_eq_add_of_le (hf x hx)
  rw [hn, Nat.add_sub_cancel_left, Nat.add_mul, Nat.one_mul]

/-- How much longer one pass is than expected. -/
def surplus (t : TrialTable) : Nat :=
  (t.blocks.map fun b => (t.emissions b - 1) * t.share b).sum

theorem Emitted.length_eq_add (hemitted : Emitted (t.passes repetitions) trials) :
    trials.length = t.runLength repetitions + t.surplus * repetitions := by
  rw [hemitted.length_eq, sum_map_mul_eq _ _ _ fun b hb => emissions_pos hb, Nat.add_mul,
    runLength, surplus]

theorem Runnable.surplus_eq_zero_iff (h : t.Runnable) : t.surplus = 0 ↔ t.SoleHeads := by
  rw [surplus, List.sum_eq_zero_iff_forall_eq_nat, List.forall_mem_map, soleHeads_iff]
  refine forall₂_congr fun b hb => ?_
  have hemissions := emissions_pos hb
  have hshare := h.share_pos hb
  rw [Nat.mul_eq_zero]
  omega

theorem Runnable.specs_ne_nil (h : t.Runnable) (hhead : t.Heads head) :
    (t.sectionOf head).flatMap (·.trials) ≠ [] := by
  intro hnil
  exact h.trials head hhead.mem
    (List.flatMap_eq_nil_iff.mp hnil head (mem_sectionOf.mpr ⟨hhead.mem, rfl⟩))

theorem Emitted.emitsOnce_iff (hemitted : Emitted (t.passes repetitions) trials)
    (h : t.Runnable) (hrepetitions : 1 ≤ repetitions) :
    t.EmitsOnce repetitions trials ↔ t.SoleHeads := by
  constructor
  · -- the first repetition in the first pass shows how often the section comes up
    intro honce head hhead
    have htagged := hemitted.tagged_of_heads hhead 1 1
    rw [if_pos ⟨⟨Nat.le_refl 1, hrepetitions⟩, Nat.le_refl 1, h.repeated head hhead.mem⟩] at htagged
    have hlength := (htagged.symm.trans (honce head hhead 1 1 (Nat.le_refl 1) hrepetitions
      (Nat.le_refl 1) (h.repeated head hhead.mem))).length_eq
    rw [List.length_flatten, List.map_replicate, List.sum_replicate_nat] at hlength
    exact Nat.eq_of_mul_eq_mul_right (List.length_pos_iff.mpr (h.specs_ne_nil hhead))
      (hlength.trans (Nat.one_mul _).symm)
  · intro hsole head hhead repetition i hone hle hpos hrepeat
    have htagged := hemitted.tagged_of_heads hhead repetition i
    rw [if_pos ⟨⟨hone, hle⟩, hpos, hrepeat⟩, hsole head hhead] at htagged
    simpa using htagged

/-! ### Tables that can be built -/

/-- A call to a builder: a trial for the block of its number, or a block that is added whole. -/
inductive BuildCall where
  | push (spec : TrialSpec) (repeatCount : Nat)
  | pushBlock (block : Block)

/-- The builder after a call. -/
def BuildCall.apply (b : TableBuilder) : BuildCall → TableBuilder
  | .push spec repeatCount => b.push spec repeatCount
  | .pushBlock block => b.pushBlock block

/-- The table that is built after some calls. -/
def built (calls : List BuildCall) : TrialTable :=
  (calls.foldl BuildCall.apply TableBuilder.empty).build.1

/-- **How long a sequence is and how often its sections come up**, for every table that can be
    built, shuffled or not. There is a sequence if the table can be run and there can be room for
    as many trials as are expected. In each pass of it a section repetition comes up once for every
    block that has the number of the section's head, and nothing else stands under a tag of the
    section; the sequence is longer than expected by what comes up more than once. So its length is
    the expected one, and each section repetition is emitted once, just when no number of a head is
    used again. -/
theorem compileWith_multiplicity {γ : Type} {shuffle : Shuffle γ} (hshuffle : shuffle.Permutes)
    (calls : List BuildCall) (repetitions : Nat) (randomize : Bool) (g : γ) :
    ((∃ compiled, (built calls).compileWith shuffle ⟨repetitions, randomize⟩ g = .ok compiled) ↔
        ((built calls).Runnable ∧ 1 ≤ repetitions) ∧
          (built calls).runLength repetitions ≤ mostInstances) ∧
      ∀ trials g',
        (built calls).compileWith shuffle ⟨repetitions, randomize⟩ g = .ok (trials, g') →
        (∀ head, (built calls).Heads head → ∀ repetition i,
          (tagged repetition (.sectioned (head.number / sectionSpan) i) trials).Perm
            (if (1 ≤ repetition ∧ repetition ≤ repetitions) ∧ 1 ≤ i ∧ i ≤ head.repeatCount then
              (List.replicate ((built calls).copies head.number)
                (((built calls).sectionOf head).flatMap (·.trials))).flatten
            else [])) ∧
        ∃ n, (built calls).expectedLength repetitions = .ok n ∧
          n.toNat = (built calls).runLength repetitions ∧
          trials.length = n.toNat + (built calls).surplus * repetitions ∧
          (trials.length = n.toNat ↔ (built calls).SoleHeads) ∧
          ((built calls).EmitsOnce repetitions trials ↔ (built calls).SoleHeads) := by
  generalize built calls = t
  refine ⟨compileWith_ok_iff, fun trials g' hcompile => ?_⟩
  obtain ⟨n, emitted, hroom, rfl, hemitted⟩ := emitted_of_compileWith hshuffle hcompile
  obtain ⟨⟨hrunnable, hrepetitions⟩, hcount, -⟩ := reserve_eq_ok_iff.mp hroom
  have hlength := hemitted.length_eq_add
  simp only at hemitted hrepetitions hcount hlength
  refine ⟨?_, n, (expectedLength_eq_ok_iff hrepetitions).mpr hcount, hcount, ?_, ?_, ?_⟩
  · intro head hhead repetition i
    rw [tagged_numbered]
    exact hemitted.tagged_of_heads hhead repetition i
  · rw [length_numbered, hlength, hcount]
  · rw [length_numbered, hlength, hcount, ← hrunnable.surplus_eq_zero_iff, Nat.add_eq_left,
      Nat.mul_eq_zero]
    omega
  · rw [← hemitted.emitsOnce_iff hrunnable hrepetitions]
    simp only [EmitsOnce, tagged_numbered]

/-- Two blocks that are added whole under one number of a section. -/
def twiceHeaded : List BuildCall :=
  [.pushBlock ⟨101, 1, [.timed 1 101 "a" 100]⟩, .pushBlock ⟨101, 1, [.timed 2 101 "b" 100]⟩]

/-- The section is emitted at both blocks, and expected once. -/
theorem section_emitted_twice : ∃ trials g',
    (built twiceHeaded).compileWith Random.shuffle ⟨1, false⟩ (.cycle [1]) = .ok (trials, g') ∧
      trials.map (·.spec.stimulus) = ["a", "b", "a", "b"] ∧
      (built twiceHeaded).expectedLength 1 = .ok 2 ∧
      ¬ (built twiceHeaded).EmitsOnce 1 trials := by
  refine ⟨_, _, rfl, rfl, rfl, ?_⟩
  intro honce
  have hhead : (built twiceHeaded).Heads ⟨101, 1, [.timed 1 101 "a" 100]⟩ :=
    ⟨by decide, by decide, rfl⟩
  have hlength := (honce _ hhead 1 1 (by decide) (by decide) (by decide) (by decide)).length_eq
  exact absurd hlength (by decide)

theorem compileWith_multiplicity_twiceHeaded :
    Shuffle.Permutes Random.shuffle ∧ ∃ trials g',
      (built twiceHeaded).compileWith Random.shuffle ⟨3, true⟩ (.cycle [1]) = .ok (trials, g') ∧
        trials.length = 12 ∧ (built twiceHeaded).expectedLength 3 = .ok 6 ∧
        ¬ (built twiceHeaded).SoleHeads ∧ ¬ (built twiceHeaded).EmitsOnce 3 trials := by
  have hnone : (built twiceHeaded).sequenceError? 3 = none := rfl
  obtain ⟨hcompiled, hmultiplicity⟩ :=
    compileWith_multiplicity shuffle_permutes twiceHeaded 3 true (.cycle [1])
  obtain ⟨⟨trials, g'⟩, hcompile⟩ :=
    hcompiled.mpr ⟨sequenceError?_eq_none_iff.mp hnone, by decide⟩
  obtain ⟨-, n, hexpected, -, hlength, hsole, honce⟩ := hmultiplicity trials g' hcompile
  have hsix : (built twiceHeaded).expectedLength 3 = .ok 6 := rfl
  obtain rfl : n = 6 := Except.ok.inj (hexpected.symm.trans hsix)
  have hlong : trials.length = 12 := hlength
  have hnot : ¬ (built twiceHeaded).SoleHeads := fun h =>
    absurd (hlong.symm.trans (hsole.mpr h)) (by decide)
  exact ⟨shuffle_permutes, trials, g', hcompile, hlong, hexpected, hnot,
    fun h => hnot (honce.mp h)⟩

end TimedTrials.TrialTable
