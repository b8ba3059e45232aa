/-
  TimedTrials/Proofs/Sequence/Counting.lean
  =========================================
  **When a sequence can be counted ahead, and when there is room for it.**

  What a run shows is the sum of what its blocks show, times the repetitions (`runLength`, which no
  word limits). The program counts this in words of 64 bits and stops at the first number that is
  none. All numbers on the way are at most the last one, so the count comes out just when the
  length itself fits, and then it is the length (`expectedLength_eq_ok_iff`). Hence a table that
  can be run has a sequence if and only if there can be room for so many instances
  (`compileWith_ok_iff`), and otherwise the program stops (`Runnable.reserve_cases`).
-/
import Mathlib.Algebra.Ring.Nat
import TimedTrials.Proofs.Sequence.SectionHeads

namespace TimedTrials.TrialTable

variable {t : TrialTable} {b : Block} {o : Overflow} {n w : UInt64} {count repetitions : Nat}

/-! ### Words -/

theorem word_eq_ok_iff : word o count = .ok w ↔ w.toNat = count := by
  unfold word
  constructor
  · intro h
    split at h
    · obtain rfl := Except.ok.inj h
      exact UInt64.toNat_ofNatLT
    · cases h
  · rintro rfl
    rw [dif_pos w.toNat_lt, Except.ok.injEq, ← UInt64.toNat_inj, UInt64.toNat_ofNatLT]

theorem exists_toNat_eq (h : count < 2 ^ 64) : ∃ w : UInt64, w.toNat = count :=
  ⟨.ofNatLT count h, UInt64.toNat_ofNatLT⟩

theorem bind_eq_ok_iff {ε α β : Type} {x : Except ε α} {f : α → Except ε β} {b : β} :
    x >>= f = .ok b ↔ ∃ a, x = .ok a ∧ f a = .ok b := by
  constructor
  · intro h
    cases x with
    | error e => cases h
    | ok a => exact ⟨a, rfl, h⟩
  · rintro ⟨a, rfl, h⟩
    exact h

/-! ### The length of a run -/

/-- How many instances a block stands for in one pass. -/
def share (t : TrialTable) (b : Block) : Nat := b.trials.length * repeats t.sections b

/-- How many trials a run shows. -/
def runLength (t : TrialTable) (repetitions : Nat) : Nat :=
  (t.blocks.map t.share).sum * repetitions

theorem countBlock_eq_ok_iff {before : UInt64} :
    countBlock t.sections before b = .ok w ↔ w.toNat = before.toNat + t.share b := by
  simp only [countBlock, bind_eq_ok_iff, word_eq_ok_iff]
  constructor
  · rintro ⟨shown, hshown, h⟩
    rw [h, hshown, share]
  · intro h
    obtain ⟨shown, hshown⟩ : ∃ shown : UInt64, shown.toNat = t.share b :=
      exists_toNat_eq (Nat.lt_of_le_of_lt (by omega) w.toNat_lt)
    exact ⟨shown, hshown, hshown ▸ h⟩

/-- Blocks are counted just when the sum fits, since the sums on the way only grow. -/
theorem foldlM_countBlock_eq_ok_iff (blocks : List Block) (start : UInt64) :
    blocks.foldlM (countBlock t.sections) start = .ok w ↔
      w.toNat = start.toNat + (blocks.map t.share).sum := by
  induction blocks generalizing start with
  | nil =>
    rw [List.foldlM_nil, List.map_nil, List.sum_nil, Nat.add_zero, UInt64.toNat_inj]
    exact ⟨fun h => (Except.ok.inj h).symm, fun h => congrArg Except.ok h.symm⟩
  | cons b blocks ih =>
    simp only [List.foldlM_cons, bind_eq_ok_iff, countBlock_eq_ok_iff, ih, List.map_cons,
      List.sum_cons]
    constructor
    · rintro ⟨next, hnext, h⟩
      rw [h, hnext, Nat.add_assoc]
    · intro h
      obtain ⟨next, hnext⟩ : ∃ next : UInt64, next.toNat = start.toNat + t.share b :=
        exists_toNat_eq (Nat.lt_of_le_of_lt (by omega) w.toNat_lt)
      exact ⟨next, hnext, by rw [hnext, h, Nat.add_assoc]⟩

/-- **What is counted is the length of the run**, and it is counted just when it fits a word. -/
theorem expectedLength_eq_ok_iff (hrepetitions : 1 ≤ repetitions) :
    t.expectedLength repetitions = .ok n ↔ n.toNat = t.runLength repetitions := by
  simp only [expectedLength, bind_eq_ok_iff, foldlM_countBlock_eq_ok_iff, word_eq_ok_iff,
    UInt64.toNat_zero, Nat.zero_add]
  constructor
  · rintro ⟨pass, hpass, h⟩
    rw [h, hpass, runLength]
  · intro h
    have hle : (t.blocks.map t.share).sum ≤ n.toNat := h ▸ Nat.le_mul_of_pos_right _ hrepetitions
    obtain ⟨pass, hpass⟩ : ∃ pass : UInt64, pass.toNat = (t.blocks.map t.share).sum :=
      exists_toNat_eq (Nat.lt_of_le_of_lt hle n.toNat_lt)
    exact ⟨pass, hpass, hpass ▸ h⟩

theorem exists_expectedLength_iff (hrepetitions : 1 ≤ repetitions) :
    (∃ n, t.expectedLength repetitions = .ok n) ↔ t.runLength repetitions < 2 ^ 64 := by
  simp only [expectedLength_eq_ok_iff hrepetitions]
  constructor
  · rintro ⟨n, h⟩
    exact h ▸ n.toNat_lt
  · exact exists_toNat_eq

/-! ### Room for a run -/

/-- What there can be room for can be counted. -/
theorem mostInstances_lt : mostInstances < 2 ^ 64 := by decide

theorem capacity_eq_ok_iff (hrepetitions : 1 ≤ repetitions) :
    t.capacity repetitions = .ok n ↔
      n.toNat = t.runLength repetitions ∧ t.runLength repetitions ≤ mostInstances := by
  simp only [capacity, bind_eq_ok_iff, expectedLength_eq_ok_iff hrepetitions]
  constructor
  · rintro ⟨counted, hcounted, h⟩
    split at h
    · rename_i hroom
      obtain rfl := Except.ok.inj h
      exact ⟨hcounted, hcounted ▸ hroom⟩
    · cases h
  · rintro ⟨hcounted, hroom⟩
    exact ⟨n, hcounted, if_pos (hcounted ▸ hroom)⟩

theorem reserve_eq_ok_iff : t.reserve repetitions = .ok n ↔
    (t.Runnable ∧ 1 ≤ repetitions) ∧ n.toNat = t.runLength repetitions ∧
      t.runLength repetitions ≤ mostInstances := by
  rw [← sequenceError?_eq_none_iff]
  unfold reserve
  cases hfault : t.sequenceError? repetitions with
  | some e => simp
  | none =>
    have hrepetitions := (sequenceError?_eq_none_iff.mp hfault).2
    rw [← capacity_eq_ok_iff hrepetitions]
    cases t.capacity repetitions <;> simp [Except.mapError]

/-- Of a table that can be run there is a sequence, if there can be room for it, and the program
    stops if there cannot. -/
theorem Runnable.reserve_cases (h : t.Runnable) (hrepetitions : 1 ≤ repetitions) :
    (∃ n, t.reserve repetitions = .ok n ∧ n.toNat = t.runLength repetitions ∧
        t.runLength repetitions ≤ mostInstances) ∨
      ∃ o, t.reserve repetitions = .error (.stopped o) ∧
        mostInstances < t.runLength repetitions := by
  cases hroom : t.reserve repetitions with
  | ok n => exact .inl ⟨n, rfl, (reserve_eq_ok_iff.mp hroom).2⟩
  | error e =>
    refine .inr ?_
    have hlong : mostInstances < t.runLength repetitions := by
      rw [← Nat.not_le]
      intro hle
      obtain ⟨n, hn⟩ := exists_toNat_eq (Nat.lt_of_le_of_lt hle mostInstances_lt)
      cases hroom.symm.trans (reserve_eq_ok_iff.mpr ⟨⟨h, hrepetitions⟩, hn, hle⟩)
    rw [reserve, sequenceError?_eq_none_iff.mpr ⟨h, hrepetitions⟩] at hroom
    cases hcapacity : t.capacity repetitions with
    | ok n =>
      rw [hcapacity] at hroom
      cases hroom
    | error o =>
      rw [hcapacity] at hroom
      exact ⟨o, congrArg Except.error (Except.error.inj hroom).symm, hlong⟩

section Compile

variable {γ : Type} {shuffle : Shuffle γ} {options : SequenceOptions} {g : γ}

theorem exists_compileWith_iff : (∃ compiled, t.compileWith shuffle options g = .ok compiled) ↔
    ∃ n, t.reserve options.repetitions = .ok n := by
  unfold compileWith
  cases t.reserve options.repetitions <;> simp

theorem compileWith_eq_error_iff {e : SequenceFailure} :
    t.compileWith shuffle options g = .error e ↔ t.reserve options.repetitions = .error e := by
  unfold compileWith
  cases t.reserve options.repetitions <;> simp

/-- **A table has a sequence if and only if it can be run and there can be room for the run.** -/
theorem compileWith_ok_iff : (∃ compiled, t.compileWith shuffle options g = .ok compiled) ↔
    (t.Runnable ∧ 1 ≤ options.repetitions) ∧
      t.runLength options.repetitions ≤ mostInstances := by
  simp only [exists_compileWith_iff, reserve_eq_ok_iff]
  constructor
  · rintro ⟨_, hrunnable, _, hroom⟩
    exact ⟨hrunnable, hroom⟩
  · rintro ⟨hrunnable, hroom⟩
    obtain ⟨n, hn⟩ := exists_toNat_eq (Nat.lt_of_le_of_lt hroom mostInstances_lt)
    exact ⟨n, hrunnable, hn, hroom⟩

end Compile

/-! ### Where counting stops -/

/-- Two trials in a block that is repeated as often as can be asked for. -/
def oftenRepeated : TrialTable :=
  ⟨[⟨1, 4294967295, [.timed 1 1 "a" 100, .timed 2 1 "b" 100]⟩]⟩

/-- Repeated as often again, they are too many for a word. -/
theorem expectedLength_oftenRepeated :
    oftenRepeated.expectedLength 4294967295 = .error .run := by
  decide

end TimedTrials.TrialTable
