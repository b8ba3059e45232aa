/-
  TimedTrials/Proofs/Table/Grouping.lean
  ======================================
  **What a builder makes of the trials pushed to it.**

  `Grouped entries b` ties a builder to all trials pushed so far, each with the repeat count it
  came with: the index knows the place of every number, and the block with a number has the
  trials with that number in their order and the repeat count of the first of them. One push
  preserves it (`Grouped.push`), so that it holds of every builder filled by pushes alone.
-/
import Mathlib.Data.List.Induction
import Mathlib.Data.List.Nodup
import TimedTrials.Trial.Table

namespace TimedTrials

/-- A trial and the repeat count it is pushed with. -/
abbrev TableEntry := TrialSpec × Nat

/-- Whether an entry is pushed to the block with a number. -/
def TableEntry.isIn (number : Int) (entry : TableEntry) : Bool := entry.1.block == number

/-- A block made of the entries with its number. -/
structure Block.Gathers (entries : List TableEntry) (b : Block) : Prop where
  trials : b.trials = (entries.filter (TableEntry.isIn b.number)).map (·.1)
  repeatCount : (entries.find? (TableEntry.isIn b.number)).map (·.2) = some b.repeatCount

/-- A table made of exactly these entries: no number is used twice, and every entry is in. -/
structure TrialTable.Gathers (entries : List TableEntry) (t : TrialTable) : Prop where
  distinct : (t.blocks.map (·.number)).Nodup
  covered : ∀ entry ∈ entries, entry.1.block ∈ t.blocks.map (·.number)
  blocks : ∀ block ∈ t.blocks, block.Gathers entries

namespace TableBuilder

/-- The numbers of the blocks, in the order of the blocks. -/
def numbers (b : TableBuilder) : List Int := b.blocks.map (·.number)

/-- A builder to which exactly these entries have been pushed. -/
structure Grouped (entries : List TableEntry) (b : TableBuilder) : Prop where
  place : ∀ number i, b.place? number = some i ↔ b.numbers[i]? = some number
  covered : ∀ entry ∈ entries, entry.1.block ∈ b.numbers
  blocks : ∀ block ∈ b.blocks, block.Gathers entries

variable {entries : List TableEntry} {b : TableBuilder} {spec : TrialSpec} {repeatCount : Nat}

theorem grouped_empty : Grouped [] empty where
  place number i := by simp [place?, numbers, empty]
  covered _ h := absurd h List.not_mem_nil
  blocks _ h := absurd h List.not_mem_nil

theorem Grouped.nodup (h : Grouped entries b) : b.numbers.Nodup := by
  -- a number that stood at two places would have both of them in the index
  rw [List.nodup_iff_getElem?_ne_getElem?]
  intro i j hij hj heq
  obtain ⟨number, hnumber⟩ : ∃ number, b.numbers[j]? = some number :=
    ⟨_, List.getElem?_eq_getElem hj⟩
  have hi := (h.place number i).mpr (heq.trans hnumber)
  have hj := (h.place number j).mpr hnumber
  exact absurd (Option.some.inj (hi.symm.trans hj)) (Nat.ne_of_lt hij)

theorem Grouped.mem_numbers_iff (h : Grouped entries b) {number : Int} :
    number ∈ b.numbers ↔ (b.place? number).isSome := by
  simp only [List.mem_iff_getElem?, Option.isSome_iff_exists, h.place]

/-! ### One push -/

/-- The repeat count that a number came with first is never forgotten. -/
theorem find?_append_of_first {number : Int} {first : Nat}
    (h : (entries.find? (TableEntry.isIn number)).map (·.2) = some first)
    (more : List TableEntry) :
    ((entries ++ more).find? (TableEntry.isIn number)).map (·.2) = some first := by
  obtain ⟨entry, hfind, hentry⟩ := Option.map_eq_some_iff.mp h
  rw [List.find?_append, hfind, Option.some_or, Option.map_some, hentry]

/-- An entry of another number leaves a block as it was. -/
theorem gathers_of_ne {block : Block} (h : block.Gathers entries)
    (hne : spec.block ≠ block.number) : block.Gathers (entries ++ [(spec, repeatCount)]) where
  trials := by
    have hnot : ([(spec, repeatCount)] : List TableEntry).filter (TableEntry.isIn block.number)
        = [] := by
      simpa [TableEntry.isIn] using hne
    rw [List.filter_append, hnot, List.append_nil, h.trials]
  repeatCount := find?_append_of_first h.repeatCount _

/-- An entry of its number is the last trial of a block, whose repeat count stays. -/
theorem gathers_of_eq {block : Block} (h : block.Gathers entries)
    (heq : spec.block = block.number) :
    (block.append spec).Gathers (entries ++ [(spec, repeatCount)]) where
  trials := by
    have hin : ([(spec, repeatCount)] : List TableEntry).filter (TableEntry.isIn block.number)
        = [(spec, repeatCount)] := by
      simpa [TableEntry.isIn] using heq
    rw [Block.append, List.filter_append, hin, List.map_append, ← h.trials, List.map_singleton]
  repeatCount := find?_append_of_first h.repeatCount _

/-- A number that has not come up opens a block with the one trial. -/
theorem gathers_new (h : ∀ entry ∈ entries, entry.1.block ≠ spec.block) :
    Block.Gathers (entries ++ [(spec, repeatCount)]) ⟨spec.block, repeatCount, [spec]⟩ where
  trials := by
    have hnone : entries.filter (TableEntry.isIn spec.block) = [] := by
      simpa [List.filter_eq_nil_iff, TableEntry.isIn] using h
    rw [List.filter_append, hnone]
    simp [TableEntry.isIn]
  repeatCount := by
    have hnone : entries.find? (TableEntry.isIn spec.block) = none := by
      simpa [List.find?_eq_none, TableEntry.isIn] using h
    rw [List.find?_append, hnone]
    simp [TableEntry.isIn]

theorem push_of_place?_eq_some {i : Nat} (h : b.place? spec.block = some i) :
    b.push spec repeatCount = { b with blocks := b.blocks.modify i (·.append spec) } := by
  simp only [push, h]

theorem push_of_place?_eq_none (h : b.place? spec.block = none) :
    b.push spec repeatCount = b.pushBlock ⟨spec.block, repeatCount, [spec]⟩ := by
  simp only [push, h]

theorem numbers_modify (i : Nat) (spec : TrialSpec) (blocks : List Block) :
    (blocks.modify i (·.append spec)).map (·.number) = blocks.map (·.number) := by
  refine List.ext_getElem? fun j => ?_
  rw [List.getElem?_map, List.getElem?_map, List.getElem?_modify]
  cases blocks[j]? with
  | none => rfl
  | some block =>
    show some (if i = j then block.append spec else block).number = some block.number
    split <;> rfl

theorem Grouped.push_of_some (h : Grouped entries b) {i : Nat}
    (hi : b.place? spec.block = some i) :
    Grouped (entries ++ [(spec, repeatCount)])
      { b with blocks := b.blocks.modify i (·.append spec) } where
  place number j := by
    rw [numbers, numbers_modify]
    exact h.place number j
  covered entry hentry := by
    rw [numbers, numbers_modify]
    rcases List.mem_append.mp hentry with hentry | hentry
    · exact h.covered entry hentry
    · obtain rfl := List.mem_singleton.mp hentry
      exact List.mem_of_getElem? ((h.place spec.block i).mp hi)
  blocks block hblock := by
    obtain ⟨j, hj⟩ := List.mem_iff_getElem?.mp hblock
    rw [List.getElem?_modify] at hj
    obtain ⟨old, hold, rfl⟩ := Option.map_eq_some_iff.mp hj
    have hgathers := h.blocks old (List.mem_of_getElem? hold)
    have hnumber : b.numbers[j]? = some old.number := by
      rw [numbers, List.getElem?_map, hold, Option.map_some]
    -- The block at the place found is the one with the number, and no other has it.
    split
    · rename_i hij
      subst hij
      rw [(h.place spec.block i).mp hi, Option.some.injEq] at hnumber
      exact gathers_of_eq hgathers hnumber
    · rename_i hij
      refine gathers_of_ne hgathers fun heq => hij ?_
      rw [← heq, ← h.place, hi, Option.some.injEq] at hnumber
      exact hnumber

theorem getElem?_concat_eq_some_iff {α : Type} {xs : List α} {x y : α} {i : Nat} :
    (xs ++ [x])[i]? = some y ↔ xs[i]? = some y ∨ i = xs.length ∧ x = y := by
  rcases Nat.lt_trichotomy i xs.length with hlt | rfl | hgt
  · rw [List.getElem?_append_left hlt]
    simp only [Nat.ne_of_lt hlt, false_and, or_false]
  · rw [List.getElem?_concat_length, List.getElem?_eq_none (Nat.le_refl _)]
    simp
  · have hlength : (xs ++ [x]).length ≤ i := by
      rw [List.length_append]
      exact hgt
    rw [List.getElem?_eq_none hlength, List.getElem?_eq_none (Nat.le_of_lt hgt)]
    simp [Nat.ne_of_gt hgt]

theorem Grouped.push_of_none (h : Grouped entries b) (hnone : b.place? spec.block = none) :
    Grouped (entries ++ [(spec, repeatCount)])
      (b.pushBlock ⟨spec.block, repeatCount, [spec]⟩) := by
  have hnew : spec.block ∉ b.numbers := by
    rw [h.mem_numbers_iff, hnone]
    exact Bool.false_ne_true
  have hnumbers : (b.pushBlock ⟨spec.block, repeatCount, [spec]⟩).numbers
      = b.numbers ++ [spec.block] := by
    simp only [pushBlock, numbers, List.map_append, List.map_singleton]
  refine ⟨?_, ?_, ?_⟩
  · intro number i
    rw [hnumbers, getElem?_concat_eq_some_iff]
    by_cases heq : number = spec.block
    · -- The old blocks do not have the number, so its place is that of the new block.
      subst heq
      have hold : b.numbers[i]? ≠ some spec.block := fun hi => hnew (List.mem_of_getElem? hi)
      have hplace : (b.pushBlock ⟨spec.block, repeatCount, [spec]⟩).place? spec.block
          = some b.numbers.length := by
        rw [place?, pushBlock, List.lookup_cons_self, numbers, List.length_map]
      simp only [hplace, Option.some.injEq, hold, and_true, false_or, eq_comm]
    · have hplace : (b.pushBlock ⟨spec.block, repeatCount, [spec]⟩).place? number
          = b.place? number := by
        simp only [place?, pushBlock, List.lookup_cons, beq_false_of_ne heq]
      rw [hplace, h.place]
      simp only [Ne.symm heq, and_false, or_false]
  · intro entry hentry
    rw [hnumbers, List.mem_append, List.mem_singleton]
    rcases List.mem_append.mp hentry with hentry | hentry
    · exact .inl (h.covered entry hentry)
    · obtain rfl := List.mem_singleton.mp hentry
      exact .inr rfl
  · intro block hblock
    rcases List.mem_append.mp hblock with hblock | hblock
    · refine gathers_of_ne (h.blocks block hblock) fun heq => hnew ?_
      exact heq ▸ List.mem_map_of_mem hblock
    · obtain rfl := List.mem_singleton.mp hblock
      exact gathers_new fun entry hentry heq => hnew (heq ▸ h.covered entry hentry)

theorem Grouped.push (h : Grouped entries b) :
    Grouped (entries ++ [(spec, repeatCount)]) (b.push spec repeatCount) := by
  cases hplace : b.place? spec.block with
  | some i => exact push_of_place?_eq_some hplace ▸ h.push_of_some hplace
  | none => exact push_of_place?_eq_none hplace ▸ h.push_of_none hplace

/-! ### All pushes -/

/-- A builder filled by pushes alone is grouped. -/
theorem Grouped.foldl_push (h : Grouped entries b) (rest : List TableEntry) :
    Grouped (entries ++ rest) (rest.foldl (fun b entry => b.push entry.1 entry.2) b) := by
  induction rest generalizing entries b with
  | nil => exact (List.append_nil entries).symm ▸ h
  | cons entry rest ih => exact List.append_cons entries entry rest ▸ ih h.push

/-- A push adds the number of its trial behind the others, unless it is there already. -/
theorem Grouped.numbers_push (h : Grouped entries b) : (b.push spec repeatCount).numbers =
    if spec.block ∈ b.numbers then b.numbers else b.numbers ++ [spec.block] := by
  cases hplace : b.place? spec.block with
  | some i =>
    have hold : spec.block ∈ b.numbers := by
      rw [h.mem_numbers_iff, hplace]
      rfl
    rw [if_pos hold, push_of_place?_eq_some hplace, numbers, numbers_modify, numbers]
  | none =>
    have hnew : spec.block ∉ b.numbers := by
      rw [h.mem_numbers_iff, hplace]
      exact Bool.false_ne_true
    rw [if_neg hnew, push_of_place?_eq_none hplace]
    simp only [pushBlock, numbers, List.map_append, List.map_singleton]

/-- Blocks stand in the order in which their numbers first came up. -/
theorem numbers_foldl_push (entries : List TableEntry) :
    (entries.foldl (fun b entry => b.push entry.1 entry.2) empty).numbers =
      (entries.map (·.1.block)).eraseDups := by
  induction entries using List.reverseRecOn with
  | nil => rfl
  | append_singleton entries entry ih =>
    have hgrouped : Grouped entries
        (entries.foldl (fun b entry => b.push entry.1 entry.2) empty) :=
      grouped_empty.foldl_push entries
    rw [List.foldl_concat, hgrouped.numbers_push, ih, List.map_append, List.map_singleton,
      List.eraseDups_append]
    by_cases hmem : entry.1.block ∈ entries.map (·.1.block)
    · rw [if_pos (List.mem_eraseDups.mpr hmem)]
      simp [List.removeAll, hmem]
    · rw [if_neg (mt List.mem_eraseDups.mp hmem)]
      simp [List.removeAll, hmem, List.eraseDups_cons]

theorem Grouped.build (h : Grouped entries b) : b.build.1.Gathers entries :=
  ⟨h.nodup, h.covered, h.blocks⟩

end TableBuilder

end TimedTrials
