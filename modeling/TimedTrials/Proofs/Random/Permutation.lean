/-
  TimedTrials/Proofs/Random/Permutation.lean
  ==========================================
  **A shuffle only changes the order**: whatever words the generator gives, what comes out is a
  permutation of what went in.
-/
import Mathlib.Data.List.Basic
import TimedTrials.Random.Words

namespace TimedTrials.Random

variable {α : Type}

theorem swap_perm (xs : Array α) (i j : Nat) : (swap xs i j).Perm xs := by
  simp only [swap, Array.swapIfInBounds_def]
  split
  · split
    · exact Array.swap_perm _ _
    · exact Array.Perm.rfl
  · exact Array.Perm.rfl

theorem shuffleFrom_perm (count i : Nat) (c : Choices) (xs : Array α) (g : Generator) :
    (shuffleFrom count i c xs g).1.Perm xs := by
  induction count generalizing i c xs g with
  | zero => exact Array.Perm.rfl
  | succ count ih => exact (ih _ _ _ _).trans (swap_perm xs i _)

/-- A shuffled list is a permutation of the list. -/
theorem shuffle_perm (xs : List α) (g : Generator) : (shuffle xs g).1.Perm xs := by
  unfold shuffle
  split
  · exact List.Perm.refl xs
  · exact (shuffleFrom_perm xs.length 0 ⟨0, 0, 1⟩ xs.toArray g).toList

end TimedTrials.Random
