/-
  TimedTrials/Proofs/Sequence/Reference.lean
  ==========================================
  **The sequence of a table, said without the walk.**

  `referenceSequence` spells out what a table stands for when nothing is shuffled: nested counts
  over passes, blocks, repetitions and trials, where a section is listed at its lowest block. It
  knows no table of sections and no leader that changes while the blocks are gone through. For
  tables whose blocks have different numbers the compiled sequence is this one, instance by
  instance, and it is as long as expected; it is compiled whenever there can be room for it
  (`compileWith_reference`).
-/
import TimedTrials.Proofs.Sequence.Multiplicity

namespace TimedTrials.TrialTable

variable {t : TrialTable} {b : Block} {γ : Type}

/-! ### The reference -/

/-- The trials that a block contributes to one pass, each with its tag: a fixed block its own, once
    for each of its repetitions; the lowest block of a section those of the whole section, once
    for each of its own repetitions; any other block none. -/
def contribution (t : TrialTable) (b : Block) : List (Grouping × TrialSpec) :=
  if b.number < sectionSpan then
    (List.range' 1 b.repeatCount).flatMap fun i => b.trials.map fun spec => (.fixed i, spec)
  else if t.IsLowest b then
    (List.range' 1 b.repeatCount).flatMap fun i =>
      (t.sectionOf b).flatMap fun c =>
        c.trials.map fun spec => (.sectioned (b.number / sectionSpan) i, spec)
  else []

/-- What all passes list, each trial with its pass and its tag. -/
def listing (t : TrialTable) (repetitions : Nat) : List (Nat × Grouping × TrialSpec) :=
  (List.range' 1 repetitions).flatMap fun r =>
    t.blocks.flatMap fun b => (t.contribution b).map fun p => (r, p)

/-- The sequence that a table stands for, positions counted from zero. -/
def referenceSequence (t : TrialTable) (repetitions : Nat) : List TrialInstance :=
  (t.listing repetitions).mapIdx fun position p => ⟨p.2.2, p.1, p.2.1, position⟩

/-! ### The walk without shuffles -/

theorem counters_eq_range' (n : Nat) : counters n = List.range' 1 n := by
  rw [counters, List.range'_eq_map_range]
  simp only [Nat.add_comm]

/-- Without shuffles batches are emitted as they are, and no chance is used up. -/
theorem emit_plain (shuffle : Shuffle γ) (batches : List (Nat × Batch)) (g : γ) :
    emit shuffle false batches g = (batches.flatMap fun p => p.2.instances p.1, g) := by
  induction batches with
  | nil => rfl
  | cons head rest ih =>
    obtain ⟨repetition, batch⟩ := head
    simp only [emit, Bool.false_and, Bool.false_eq_true, if_false, ih, List.flatMap_cons]

theorem emitted_plain (batches : List (Nat × Batch)) :
    Emitted batches (batches.flatMap fun p => p.2.instances p.1) := by
  induction batches with
  | nil => exact .nil
  | cons head rest ih => exact .cons (List.Perm.refl _) (fun _ => rfl) ih

/-- Where no number is used twice, the lowest block of a section is its head. -/
theorem heads_of_isLowest (hdistinct : (t.blocks.map (·.number)).Nodup) (hb : b ∈ t.blocks)
    (hsectioned : sectionSpan ≤ b.number) (hlowest : t.IsLowest b) : t.Heads b := by
  obtain ⟨head, hhead, hsection, _⟩ := exists_heads hb hsectioned
  have hnumber : b.number = head.number := hhead.eq_number hb hsection hlowest
  exact List.inj_on_of_nodup_map hdistinct hb hhead.mem hnumber ▸ hhead

/-- What the walk emits at a block is what the block contributes. -/
theorem instances_batchesAt (hdistinct : (t.blocks.map (·.number)).Nodup) (hb : b ∈ t.blocks)
    (r : Nat) : (batchesAt t.sections b).flatMap (Batch.instances r) =
      (t.contribution b).map fun p => ⟨p.2, r, p.1, 0⟩ := by
  rw [contribution]
  rcases Int.lt_or_le b.number sectionSpan with hfixed | hsectioned
  · rw [batchesAt_of_fixed hfixed, if_pos hfixed, counters_eq_range', List.flatMap_map,
      List.map_flatMap]
    simp only [Batch.instances, List.map_map, Function.comp_def]
  · rw [if_neg (Int.not_lt.mpr hsectioned)]
    by_cases hlowest : t.IsLowest b
    · have hhead : t.Heads b := heads_of_isLowest hdistinct hb hsectioned hlowest
      rw [batchesAt_of_heads hhead rfl, if_pos hlowest, counters_eq_range', List.flatMap_map,
        List.map_flatMap]
      simp only [Batch.instances, List.map_flatMap, List.map_map, Function.comp_def]
    · rw [batchesAt_of_not_lowest hb hsectioned hlowest, if_neg hlowest]
      rfl

theorem instances_passes (hdistinct : (t.blocks.map (·.number)).Nodup) (repetitions : Nat) :
    ((t.passes repetitions).flatMap fun p => p.2.instances p.1) =
      (t.listing repetitions).map fun p => ⟨p.2.2, p.1, p.2.1, 0⟩ := by
  rw [passes, listing, counters_eq_range', List.flatMap_assoc, List.map_flatMap]
  refine List.flatMap_congr fun r _ => ?_
  rw [List.flatMap_map, pass, List.flatMap_assoc, List.map_flatMap]
  refine List.flatMap_congr fun b hb => ?_
  rw [instances_batchesAt hdistinct hb, List.map_map]
  rfl

theorem numbered_listing (t : TrialTable) (repetitions : Nat) :
    numbered ((t.listing repetitions).map fun p => ⟨p.2.2, p.1, p.2.1, 0⟩) =
      t.referenceSequence repetitions := by
  refine List.ext_getElem? fun i => ?_
  simp only [numbered_getElem?, referenceSequence, List.getElem?_mapIdx, List.getElem?_map,
    Option.map_map, Function.comp_def]

/-! ### The compiled sequence -/

theorem length_referenceSequence (hdistinct : (t.blocks.map (·.number)).Nodup)
    (hrunnable : t.Runnable) (repetitions : Nat) :
    (t.referenceSequence repetitions).length = t.runLength repetitions := by
  have hemitted := (emitted_plain (t.passes repetitions)).length_eq_add
  rw [(hrunnable.surplus_eq_zero_iff).mpr (soleHeads_of_nodup hdistinct), Nat.zero_mul,
    Nat.add_zero, instances_passes hdistinct] at hemitted
  rw [← hemitted, ← numbered_listing, length_numbered]

/-- **Without shuffles the compiled sequence is the reference**, for every table that can be run
    and in which no number is used twice, whatever the source of chance, which is not used up. It
    has the expected length, and its positions are counted from zero. The table is compiled if and
    only if there can be room for its reference. -/
theorem compileWith_reference (shuffle : Shuffle γ) (hrunnable : t.Runnable)
    (hdistinct : (t.blocks.map (·.number)).Nodup) {repetitions : Nat}
    (hrepetitions : 1 ≤ repetitions) (g : γ) :
    ((∃ compiled, t.compileWith shuffle ⟨repetitions, false⟩ g = .ok compiled) ↔
        (t.referenceSequence repetitions).length ≤ mostInstances) ∧
      ∀ trials g', t.compileWith shuffle ⟨repetitions, false⟩ g = .ok (trials, g') →
        trials = t.referenceSequence repetitions ∧ g' = g ∧
          (∃ n, t.expectedLength repetitions = .ok n ∧ trials.length = n.toNat) ∧
          trials.map (·.sequencePosition) = List.range trials.length := by
  have hlength := length_referenceSequence hdistinct hrunnable repetitions
  constructor
  · rw [hlength, compileWith_ok_iff]
    exact and_iff_right ⟨hrunnable, hrepetitions⟩
  · intro trials g' hcompile
    obtain ⟨n, hroom⟩ := exists_compileWith_iff.mp ⟨_, hcompile⟩
    obtain ⟨-, hcount, -⟩ := reserve_eq_ok_iff.mp hroom
    simp only at hcount
    simp only [compileWith, hroom, emit_plain, instances_passes hdistinct, numbered_listing,
      Except.ok.injEq, Prod.mk.injEq] at hcompile
    obtain ⟨rfl, rfl⟩ := hcompile
    refine ⟨rfl, rfl, ⟨n, (expectedLength_eq_ok_iff hrepetitions).mpr hcount, ?_⟩, ?_⟩
    · rw [hlength, hcount]
    · refine List.ext_getElem (by simp) fun i _ _ => ?_
      simp [referenceSequence]

/-- **A table that is compiled once need not be compiled more often.** Its blocks have numbers of
    their own, but more repetitions are too many to count, and no sequence is given back. -/
theorem reference_stopped :
    (oftenRepeated.blocks.map (·.number)).Nodup ∧
      ∀ g : Random.Generator, (∃ compiled, oftenRepeated.compile ⟨1, false⟩ g = .ok compiled) ∧
        oftenRepeated.compile ⟨4294967295, false⟩ g = .error (.stopped .run) := by
  have hnone : oftenRepeated.sequenceError? 1 = none := rfl
  refine ⟨List.nodup_singleton 1, fun g => ⟨?_, rfl⟩⟩
  exact compileWith_ok_iff.mpr ⟨sequenceError?_eq_none_iff.mp hnone, by decide⟩

/-- A section in two parts around a fixed block, led by the block that is authored last. -/
def splitTable : TrialTable :=
  ⟨[⟨102, 5, [.timed 1 102 "x" 100, .timed 2 102 "y" 100]⟩, ⟨3, 2, [.timed 3 3 "+" 100]⟩,
    ⟨101, 2, [.timed 4 101 "z" 100]⟩]⟩

theorem runnable_splitTable : splitTable.Runnable :=
  have hnone : splitTable.sequenceError? 1 = none := rfl
  (sequenceError?_eq_none_iff.mp hnone).1

example : (splitTable.referenceSequence 1).map (fun a => (a.spec.stimulus, a.grouping)) =
    [("+", .fixed 1), ("+", .fixed 2), ("x", .sectioned 1 1), ("y", .sectioned 1 1),
      ("z", .sectioned 1 1), ("x", .sectioned 1 2), ("y", .sectioned 1 2),
      ("z", .sectioned 1 2)] := by
  decide

theorem compileWith_reference_splitTable :
    splitTable.Runnable ∧ (splitTable.blocks.map (·.number)).Nodup ∧ 1 ≤ 2 ∧
      splitTable.compileWith Random.shuffle ⟨2, false⟩ (.cycle [1]) =
        .ok (splitTable.referenceSequence 2, .cycle [1]) ∧
      splitTable.expectedLength 2 = .ok 16 ∧ (splitTable.referenceSequence 2).length = 16 ∧
      (splitTable.referenceSequence 2).map (·.sequencePosition) = List.range 16 := by
  have hdistinct : (splitTable.blocks.map (·.number)).Nodup := by decide
  have hrepetitions : 1 ≤ 2 := by decide
  obtain ⟨hroom, hreference⟩ := compileWith_reference Random.shuffle runnable_splitTable hdistinct
    hrepetitions (.cycle [1])
  obtain ⟨⟨trials, g'⟩, hcompile⟩ := hroom.mpr (by decide)
  obtain ⟨rfl, rfl, ⟨n, hexpected, hlength⟩, hpositions⟩ := hreference trials g' hcompile
  have hsixteen : splitTable.expectedLength 2 = .ok 16 := rfl
  obtain rfl : n = 16 := Except.ok.inj (hexpected.symm.trans hsixteen)
  have hlength : (splitTable.referenceSequence 2).length = 16 := hlength
  exact ⟨runnable_splitTable, hdistinct, hrepetitions, hcompile, hexpected, hlength,
    hlength ▸ hpositions⟩

end TimedTrials.TrialTable
