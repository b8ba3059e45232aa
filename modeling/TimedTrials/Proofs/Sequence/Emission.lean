/-
  TimedTrials/Proofs/Sequence/Emission.lean
  =========================================
  **What may come out of the batches of a table.**

  `Emitted` says what a list of batches can be emitted as: each batch as a whole and in its
  place, the trials of a section's batch in any order, those of a fixed block in theirs.
  Shuffled or not, a sequence is emitted in this sense (`emitted_emit`), so that two sequences
  of one table can only differ within the batches of sections (`compileWith_randomized`).
-/
import Mathlib.Data.List.Forall2
import TimedTrials.Proofs.Random.Permutation
import TimedTrials.Sequence

namespace TimedTrials.TrialTable

/-- What batches can be emitted as. -/
inductive Emitted : List (Nat × Batch) → List TrialInstance → Prop where
  | nil : Emitted [] []
  | cons {repetition : Nat} {batch : Batch} {rest : List (Nat × Batch)}
      {run tail : List TrialInstance} (hperm : run.Perm (batch.instances repetition))
      (hfixed : batch.isSectioned = false → run = batch.instances repetition)
      (htail : Emitted rest tail) : Emitted ((repetition, batch) :: rest) (run ++ tail)

/-- A shuffle that only changes the order. -/
def Shuffle.Permutes {γ : Type} (shuffle : Shuffle γ) : Prop :=
  ∀ run g, (shuffle run g).1.Perm run

theorem shuffle_permutes : Shuffle.Permutes Random.shuffle := Random.shuffle_perm

section Emit

variable {γ : Type} {shuffle : Shuffle γ}

/-- Whether it is shuffled or not, a table's sequence is emitted from its batches. -/
theorem emitted_emit (hshuffle : shuffle.Permutes) (randomize : Bool)
    (batches : List (Nat × Batch)) (g : γ) :
    Emitted batches (emit shuffle randomize batches g).1 := by
  -- each batch leaves the source of chance in some other state for the batches behind it
  induction batches generalizing g with
  | nil => exact .nil
  | cons head rest ih =>
    obtain ⟨repetition, batch⟩ := head
    simp only [emit]
    split
    · rename_i hshuffled
      refine .cons (hshuffle _ g) ?_ (ih _)
      intro hfixed
      rw [hfixed, Bool.and_false] at hshuffled
      cases hshuffled
    · exact .cons (List.Perm.refl _) (fun _ => rfl) (ih _)

/-- Compiling ends before anything is emitted, or what comes out is emitted from the batches of all
    passes. -/
theorem compileWith_cases (hshuffle : shuffle.Permutes) (t : TrialTable)
    (options : SequenceOptions) (g : γ) :
    (∃ e, t.reserve options.repetitions = .error e ∧
        t.compileWith shuffle options g = .error e) ∨
      ∃ n trials g', t.reserve options.repetitions = .ok n ∧
        t.compileWith shuffle options g = .ok (numbered trials, g') ∧
        Emitted (t.passes options.repetitions) trials := by
  unfold compileWith
  cases h : t.reserve options.repetitions with
  | error e => exact .inl ⟨e, rfl, rfl⟩
  | ok n =>
    refine .inr ⟨n, _, _, rfl, rfl, ?_⟩
    exact emitted_emit hshuffle options.randomizeSections _ g

/-- A sequence that is given back was emitted, and there was room for so many instances. -/
theorem emitted_of_compileWith (hshuffle : shuffle.Permutes) {t : TrialTable}
    {options : SequenceOptions} {g g' : γ} {trials : List TrialInstance}
    (h : t.compileWith shuffle options g = .ok (trials, g')) :
    ∃ n emitted, t.reserve options.repetitions = .ok n ∧ trials = numbered emitted ∧
      Emitted (t.passes options.repetitions) emitted := by
  rcases compileWith_cases hshuffle t options g with
    ⟨_, _, herror⟩ | ⟨n, emitted, _, hroom, hok, hemitted⟩
  · cases h.symm.trans herror
  · obtain ⟨rfl, _⟩ := Prod.mk.inj (Except.ok.inj (h.symm.trans hok))
    exact ⟨n, emitted, hroom, rfl, hemitted⟩

end Emit

/-! ### Contents -/

/-- Nothing is lost and nothing is made: what is emitted are the trials of the batches. -/
theorem Emitted.spec_perm {batches : List (Nat × Batch)} {trials : List TrialInstance}
    (h : Emitted batches trials) :
    (trials.map (·.spec)).Perm (batches.flatMap (·.2.specs)) := by
  induction h with
  | nil => exact List.Perm.refl _
  | @cons repetition batch _ run _ hperm _ _ ih =>
    rw [List.map_append, List.flatMap_cons]
    refine List.Perm.append ?_ ih
    have hspecs : (batch.instances repetition).map (·.spec) = batch.specs := by
      simp only [Batch.instances, List.map_map, Function.comp_def, List.map_id']
    exact hspecs ▸ hperm.map _

/-! ### Slots -/

/-- Two instances at one place of two sequences: their tags are the same, and the trials of
    fixed blocks too. -/
structure SameSlot (a b : TrialInstance) : Prop where
  repetition : a.repetition = b.repetition
  grouping : a.grouping = b.grouping
  sequencePosition : a.sequencePosition = b.sequencePosition
  fixed : ∀ blockRepetition, a.grouping = .fixed blockRepetition → a.spec = b.spec

theorem Batch.isSectioned_eq_false_iff {batch : Batch} :
    batch.isSectioned = false ↔ ∃ blockRepetition, batch.grouping = .fixed blockRepetition := by
  unfold Batch.isSectioned
  cases batch.grouping with
  | fixed blockRepetition => simp only [Grouping.fixed.injEq, exists_eq']
  | sectioned sectionId sectionRepetition => simp

/-- All instances of a batch carry its tag. -/
theorem Batch.tag_of_mem {repetition : Nat} {batch : Batch} {a : TrialInstance}
    (h : a ∈ batch.instances repetition) :
    a.repetition = repetition ∧ a.grouping = batch.grouping ∧ a.sequencePosition = 0 := by
  obtain ⟨_, _, rfl⟩ := List.mem_map.mp h
  exact ⟨rfl, rfl, rfl⟩

theorem Batch.sameSlot_of_perm {repetition : Nat} {batch : Batch} {xs ys : List TrialInstance}
    (hx : xs.Perm (batch.instances repetition)) (hy : ys.Perm (batch.instances repetition))
    (hfixed : batch.isSectioned = false → xs = ys) : List.Forall₂ SameSlot xs ys := by
  refine List.forall₂_of_length_eq_of_get (hx.length_eq.trans hy.length_eq.symm) ?_
  intro i hi hi'
  obtain ⟨hrepetition, hgrouping, hposition⟩ := batch.tag_of_mem (hx.mem_iff.mp (xs.get_mem ⟨i, hi⟩))
  obtain ⟨hrepetition', hgrouping', hposition'⟩ :=
    batch.tag_of_mem (hy.mem_iff.mp (ys.get_mem ⟨i, hi'⟩))
  refine ⟨hrepetition.trans hrepetition'.symm, hgrouping.trans hgrouping'.symm,
    hposition.trans hposition'.symm, ?_⟩
  intro blockRepetition h
  obtain rfl := hfixed (Batch.isSectioned_eq_false_iff.mpr ⟨_, hgrouping.symm.trans h⟩)
  rfl

/-- Two emissions of the same batches agree slot by slot. -/
theorem Emitted.sameSlot {batches : List (Nat × Batch)} {xs ys : List TrialInstance}
    (hx : Emitted batches xs) (hy : Emitted batches ys) : List.Forall₂ SameSlot xs ys := by
  induction hx generalizing ys with
  | nil =>
    cases hy
    exact .nil
  | cons hperm hfixed _ ih =>
    cases hy with
    | cons hperm' hfixed' htail' =>
      refine List.rel_append (Batch.sameSlot_of_perm hperm hperm' ?_) (ih htail')
      intro h
      exact (hfixed h).trans (hfixed' h).symm

/-! ### Tags -/

/-- The trials that carry a tag, in the order of the sequence. -/
def tagged (repetition : Nat) (grouping : Grouping) (trials : List TrialInstance) :
    List TrialSpec :=
  (trials.filter fun t => t.repetition == repetition && t.grouping == grouping).map (·.spec)

theorem tagged_append (repetition : Nat) (grouping : Grouping) (xs ys : List TrialInstance) :
    tagged repetition grouping (xs ++ ys) =
      tagged repetition grouping xs ++ tagged repetition grouping ys := by
  simp only [tagged, List.filter_append, List.map_append]

theorem tagged_perm {xs ys : List TrialInstance} (h : xs.Perm ys) (repetition : Nat)
    (grouping : Grouping) :
    (tagged repetition grouping xs).Perm (tagged repetition grouping ys) :=
  (h.filter _).map _

/-- Two emissions of the same batches have the same trials under every tag, up to their order. -/
theorem Emitted.tagged_perm {batches : List (Nat × Batch)} {xs ys : List TrialInstance}
    (hx : Emitted batches xs) (hy : Emitted batches ys) (repetition : Nat)
    (grouping : Grouping) :
    (tagged repetition grouping xs).Perm (tagged repetition grouping ys) := by
  induction hx generalizing ys with
  | nil =>
    cases hy
    exact List.Perm.refl _
  | cons hperm _ _ ih =>
    cases hy with
    | cons hperm' _ htail' =>
      rw [tagged_append, tagged_append]
      exact (TrialTable.tagged_perm (hperm.trans hperm'.symm) _ _).append (ih htail')

/-! ### Positions -/

theorem numbered_getElem? (trials : List TrialInstance) (i : Nat) :
    (numbered trials)[i]? = trials[i]?.map fun t => { t with sequencePosition := i } := by
  simp only [numbered, List.getElem?_mapIdx]

/-- Counting leaves everything but the positions alone. -/
theorem map_numbered {β : Type} (f : TrialInstance → β)
    (hf : ∀ t i, f { t with sequencePosition := i } = f t) (trials : List TrialInstance) :
    (numbered trials).map f = trials.map f := by
  refine List.ext_getElem? fun i => ?_
  simp only [List.getElem?_map, numbered_getElem?, Option.map_map, Function.comp_def, hf]

theorem tagged_eq_filterMap (repetition : Nat) (grouping : Grouping)
    (trials : List TrialInstance) :
    tagged repetition grouping trials =
      (trials.map fun t =>
        if t.repetition == repetition && t.grouping == grouping then some t.spec
        else none).filterMap id := by
  rw [tagged, ← List.filterMap_eq_map, List.filterMap_filter, List.filterMap_map]
  rfl

theorem tagged_numbered (repetition : Nat) (grouping : Grouping) (trials : List TrialInstance) :
    tagged repetition grouping (numbered trials) = tagged repetition grouping trials := by
  rw [tagged_eq_filterMap, tagged_eq_filterMap, map_numbered _ fun _ _ => rfl]

@[simp] theorem length_numbered (trials : List TrialInstance) :
    (numbered trials).length = trials.length := List.length_mapIdx

theorem sameSlot_numbered {xs ys : List TrialInstance} (h : List.Forall₂ SameSlot xs ys) :
    List.Forall₂ SameSlot (numbered xs) (numbered ys) := by
  refine List.forall₂_of_length_eq_of_get (by simpa using h.length_eq) ?_
  intro i hi hi'
  have hslot := h.get (by simpa using hi) (by simpa using hi')
  simp only [numbered, List.get_eq_getElem, List.getElem_mapIdx] at hslot ⊢
  exact ⟨hslot.repetition, hslot.grouping, rfl, hslot.fixed⟩

/-! ### Shuffled and plain sequences -/

/-- How a sequence with shuffled sections stands to the plain one: they agree slot by slot, the
    trials of every section repetition are the same up to their order, and so are all trials. -/
structure ShufflesSections (shuffled plain : List TrialInstance) : Prop where
  length : shuffled.length = plain.length
  slots : ∀ (i : Nat) (a b : TrialInstance),
    shuffled[i]? = some a → plain[i]? = some b → SameSlot a b
  sections : ∀ repetition sectionId sectionRepetition,
    (tagged repetition (.sectioned sectionId sectionRepetition) shuffled).Perm
      (tagged repetition (.sectioned sectionId sectionRepetition) plain)
  specs : (shuffled.map (·.spec)).Perm (plain.map (·.spec))

theorem Emitted.shufflesSections {batches : List (Nat × Batch)} {xs ys : List TrialInstance}
    (hx : Emitted batches xs) (hy : Emitted batches ys) :
    ShufflesSections (numbered xs) (numbered ys) where
  length := by
    rw [length_numbered, length_numbered, (hx.sameSlot hy).length_eq]
  slots i a b ha hb := by
    obtain ⟨hi, rfl⟩ := List.getElem?_eq_some_iff.mp ha
    obtain ⟨hi', rfl⟩ := List.getElem?_eq_some_iff.mp hb
    exact (sameSlot_numbered (hx.sameSlot hy)).get hi hi'
  sections repetition sectionId sectionRepetition := by
    rw [tagged_numbered, tagged_numbered]
    exact hx.tagged_perm hy _ _
  specs := by
    rw [map_numbered _ fun _ _ => rfl, map_numbered _ fun _ _ => rfl]
    exact hx.spec_perm.trans hy.spec_perm.symm

/-- With and without shuffling, from whatever states of chance, there is no sequence of a table for
    the same reason, or the two sequences differ only in the order within section repetitions. -/
theorem compileWith_randomized {γ : Type} {shuffle : Shuffle γ} (hshuffle : shuffle.Permutes)
    (t : TrialTable) (repetitions : Nat) (g h : γ) :
    (∃ e, t.reserve repetitions = .error e ∧
        t.compileWith shuffle ⟨repetitions, true⟩ g = .error e ∧
        t.compileWith shuffle ⟨repetitions, false⟩ h = .error e) ∨
      ∃ shuffled plain g' h', t.compileWith shuffle ⟨repetitions, true⟩ g = .ok (shuffled, g') ∧
        t.compileWith shuffle ⟨repetitions, false⟩ h = .ok (plain, h') ∧
        ShufflesSections shuffled plain := by
  obtain ⟨e, he, hg⟩ | ⟨n, xs, g', hroom, hg, hx⟩ :=
    compileWith_cases hshuffle t ⟨repetitions, true⟩ g
  · obtain ⟨f, hf, hh⟩ | ⟨_, _, _, hroom, _⟩ := compileWith_cases hshuffle t ⟨repetitions, false⟩ h
    · obtain rfl : e = f := Except.error.inj (he.symm.trans hf)
      exact .inl ⟨e, he, hg, hh⟩
    · cases he.symm.trans hroom
  · obtain ⟨f, hf, _⟩ | ⟨_, ys, h', _, hh, hy⟩ :=
      compileWith_cases hshuffle t ⟨repetitions, false⟩ h
    · cases hf.symm.trans hroom
    · exact .inr ⟨_, _, g', h', hg, hh, hx.shufflesSections hy⟩

/-- A section of two trials that is shown twice, and a fixed block. -/
def pairTable : TrialTable :=
  ⟨[⟨101, 2, [.timed 1 101 "x" 100, .timed 2 101 "y" 100]⟩, ⟨1, 1, [.timed 3 1 "+" 100]⟩]⟩

theorem compileWith_randomized_pairTable :
    Shuffle.Permutes Random.shuffle ∧ ∃ shuffled plain g' h',
      pairTable.compileWith Random.shuffle ⟨1, true⟩ (.cycle [1]) = .ok (shuffled, g') ∧
      pairTable.compileWith Random.shuffle ⟨1, false⟩ (.cycle [1]) = .ok (plain, h') ∧
      ShufflesSections shuffled plain := by
  refine ⟨shuffle_permutes, Or.resolve_left
    (compileWith_randomized shuffle_permutes pairTable 1 (.cycle [1]) (.cycle [1])) ?_⟩
  rintro ⟨e, he, _⟩
  have hroom : pairTable.reserve 1 = .ok 5 := rfl
  cases hroom.symm.trans he

end TimedTrials.TrialTable
