/-
  TimedTrials/Proofs/Sequence/Repetitions.lean
  ============================================
  **More repetitions leave the earlier ones as they are.**

  The passes of a longer sequence begin with those of a shorter one (`passes_append`), and what
  is emitted from the first batches, chance included, does not depend on the batches behind them
  (`emit_append`). Positions are counted in the end, but from the front. So the sequence of fewer
  repetitions is the beginning of the sequence of more, and all passes are equally long
  (`compileWith_extends`).
-/
import TimedTrials.Proofs.Sequence.FixedBlocks
import TimedTrials.Proofs.Sequence.Reference

namespace TimedTrials.TrialTable

variable {γ : Type} {shuffle : Shuffle γ} {t : TrialTable}

/-! ### Passes -/

/-- The batches of so many passes, the first of which has the given number. -/
def passesFrom (t : TrialTable) (first count : Nat) : List (Nat × Batch) :=
  (List.range' first count).flatMap fun r => t.pass.map fun b => (r, b)

theorem passes_append (t : TrialTable) (repetitions more : Nat) :
    t.passes (repetitions + more) =
      t.passes repetitions ++ t.passesFrom (1 + repetitions) more := by
  rw [passes, passes, passesFrom, counters_eq_range', counters_eq_range', ← List.range'_append_1,
    List.flatMap_append]

theorem passes_eq_passesFrom (t : TrialTable) (repetitions : Nat) :
    t.passes repetitions = t.passesFrom 1 repetitions := by
  rw [passes, passesFrom, counters_eq_range']

/-- Whatever is emitted is an instance of one of the batches, in its pass. -/
theorem Emitted.exists_batch {batches : List (Nat × Batch)} {trials : List TrialInstance}
    {a : TrialInstance} (h : Emitted batches trials) (ha : a ∈ trials) :
    ∃ p ∈ batches, a ∈ p.2.instances p.1 := by
  induction h with
  | nil => cases ha
  | @cons repetition batch _ _ _ hperm _ _ ih =>
    rcases List.mem_append.mp ha with hrun | htail
    · exact ⟨(repetition, batch), List.mem_cons_self, hperm.mem_iff.mp hrun⟩
    · obtain ⟨p, hp, hinstance⟩ := ih htail
      exact ⟨p, List.mem_cons_of_mem _ hp, hinstance⟩

/-- What is emitted from passes carries their numbers. -/
theorem Emitted.repetition_of_mem {first count : Nat} {trials : List TrialInstance}
    {a : TrialInstance} (h : Emitted (t.passesFrom first count) trials) (ha : a ∈ trials) :
    first ≤ a.repetition ∧ a.repetition < first + count := by
  obtain ⟨p, hp, hinstance⟩ := h.exists_batch ha
  obtain ⟨r, hr, hp⟩ := List.mem_flatMap.mp hp
  obtain ⟨batch, _, rfl⟩ := List.mem_map.mp hp
  rw [(batch.tag_of_mem hinstance).1]
  exact List.mem_range'_1.mp hr

/-! ### Emission in two parts -/

/-- The first batches are emitted alike whatever stands behind them; the others then find chance as
    the first ones left it. -/
theorem emit_append (randomize : Bool) (front back : List (Nat × Batch)) (g : γ) :
    emit shuffle randomize (front ++ back) g =
      ((emit shuffle randomize front g).1 ++
          (emit shuffle randomize back (emit shuffle randomize front g).2).1,
        (emit shuffle randomize back (emit shuffle randomize front g).2).2) := by
  -- for any state of chance, since a batch of a section changes it for those behind
  induction front generalizing g with
  | nil => rfl
  | cons head front ih =>
    obtain ⟨repetition, batch⟩ := head
    simp only [List.cons_append, emit, ih, List.append_assoc]

/-- Trials behind others do not change how these are counted. -/
theorem numbered_append (front back : List TrialInstance) :
    numbered (front ++ back) =
      numbered front ++ back.mapIdx fun i a => { a with sequencePosition := i + front.length } := by
  rw [numbered, numbered, List.mapIdx_append]

/-! ### Two sequences of one table -/

/-- **More repetitions leave the earlier ones as they are.** When a table has a sequence of so many
    repetitions, then from the same source of chance, shuffled or not, it has one of more, unless
    the program stops because that is too long; the longer sequence begins with the shorter one,
    position by position, which is all that it has of the first repetitions; and their lengths are
    in the ratio of the repetitions. -/
theorem compileWith_extends (hshuffle : shuffle.Permutes) {repetitions more : Nat}
    {randomize : Bool} {g g₁ : γ} {xs : List TrialInstance}
    (hcompiled : t.compileWith shuffle ⟨repetitions, randomize⟩ g = .ok (xs, g₁))
    (hle : repetitions ≤ more) :
    (∃ o, t.compileWith shuffle ⟨more, randomize⟩ g = .error (.stopped o) ∧
        mostInstances < t.runLength more) ∨
      ∃ ys g₂, t.compileWith shuffle ⟨more, randomize⟩ g = .ok (ys, g₂) ∧
        xs <+: ys ∧ xs = ys.filter (·.repetition ≤ repetitions) ∧
        xs.length * more = ys.length * repetitions := by
  obtain ⟨⟨hrunnable, hpos⟩, -⟩ := compileWith_ok_iff.mp ⟨_, hcompiled⟩
  rcases hrunnable.reserve_cases (Nat.le_trans hpos hle) with ⟨n, hroom, -⟩ | ⟨o, hstop, hlong⟩
  swap
  · exact .inl ⟨o, compileWith_eq_error_iff.mpr hstop, hlong⟩
  obtain ⟨⟨ys, g₂⟩, hmore⟩ :
      ∃ compiled, t.compileWith shuffle ⟨more, randomize⟩ g = .ok compiled :=
    exists_compileWith_iff.mpr ⟨n, hroom⟩
  refine .inr ⟨ys, g₂, hmore, ?_⟩
  obtain ⟨rfl, rfl⟩ := eq_emit_of_compileWith hcompiled
  obtain ⟨rfl, rfl⟩ := eq_emit_of_compileWith hmore
  obtain ⟨extra, rfl⟩ := Nat.exists_eq_add_of_le hle
  simp only
  have hfront := emitted_emit hshuffle randomize (t.passes repetitions) g
  have hback := emitted_emit hshuffle randomize (t.passesFrom (1 + repetitions) extra)
    (emit shuffle randomize (t.passes repetitions) g).2
  have hall := (emitted_emit hshuffle randomize (t.passes (repetitions + extra)) g).length_eq
  have hlength := hfront.length_eq
  rw [passes_append, emit_append] at hall ⊢
  generalize (emit shuffle randomize (t.passes repetitions) g).1 = front at *
  generalize (emit shuffle randomize (t.passesFrom _ _) _).1 = back at *
  rw [numbered_append]
  refine ⟨List.prefix_append _ _, ?_, ?_⟩
  · rw [List.filter_append, List.filter_eq_self.mpr, List.filter_eq_nil_iff.mpr, List.append_nil]
    · intro a ha
      obtain ⟨i, hi, rfl⟩ := List.mem_mapIdx.mp ha
      have hlate := (hback.repetition_of_mem (List.getElem_mem hi)).1
      simp only [decide_eq_true_eq]
      omega
    · intro a ha
      obtain ⟨i, hi, rfl⟩ := List.mem_mapIdx.mp ha
      rw [passes_eq_passesFrom] at hfront
      have hearly := (hfront.repetition_of_mem (List.getElem_mem hi)).2
      simp only [decide_eq_true_eq]
      omega
  · rw [List.length_append, List.length_mapIdx, length_numbered, ← List.length_append, hall,
      hlength, Nat.mul_assoc, Nat.mul_assoc, Nat.mul_comm repetitions]

/-- A section of two trials, shuffled twice in each pass, and a fixed block behind it. -/
theorem compileWith_extends_pairTable :
    Shuffle.Permutes Random.shuffle ∧ ∃ xs g₁,
      pairTable.compileWith Random.shuffle ⟨2, true⟩ (.cycle [7, 1]) = .ok (xs, g₁) ∧ 2 ≤ 5 ∧
      ∃ ys g₂, pairTable.compileWith Random.shuffle ⟨5, true⟩ (.cycle [7, 1]) = .ok (ys, g₂) ∧
        xs <+: ys ∧ xs = ys.filter (·.repetition ≤ 2) ∧ xs.length * 5 = ys.length * 2 := by
  obtain ⟨⟨xs, g₁⟩, hcompiled⟩ : ∃ compiled,
      pairTable.compileWith Random.shuffle ⟨2, true⟩ (.cycle [7, 1]) = .ok compiled := ⟨_, rfl⟩
  have hle : 2 ≤ 5 := by decide
  refine ⟨shuffle_permutes, xs, g₁, hcompiled, hle,
    (compileWith_extends shuffle_permutes hcompiled hle).resolve_left ?_⟩
  rintro ⟨_, _, hlong⟩
  exact absurd hlong (by decide)

end TimedTrials.TrialTable
