/-
  TimedTrials/Proofs/Trial/KeyNames.lean
  ======================================
  **A normal form is its own normal form.**

  The normal form of a key name is trimmed, lowered and folded. Folding ends at three names that
  are normal as they are, and any other name it keeps, which has been trimmed and lowered before
  (`Key.normal_normal`). So it makes no difference whether a key is compared as it was pressed or
  by the name it was recorded under (`Response.acceptsKey_normal`).
-/
import TimedTrials.Proofs.Text.Lowering
import TimedTrials.Trial.Response

namespace TimedTrials

namespace Key

/-- The names that others are folded to. -/
def foldedNames : List String := [" ", "control", "shift"]

theorem foldAlias_cases (name : String) : foldAlias name ∈ foldedNames ∨ foldAlias name = name := by
  unfold foldAlias
  split
  · exact Or.inl (by decide)
  · split
    · exact Or.inl (by decide)
    · split
      · exact Or.inl (by decide)
      · exact Or.inr rfl

/-- A folded name is normal. -/
theorem normal_foldedNames : ∀ name ∈ foldedNames, normal name = name := by decide +kernel

/-- **Normal forms are stable**: taking the normal form once more changes nothing. -/
theorem normal_normal (name : String) : normal (normal name) = normal name := by
  by_cases hblank : name = " "
  · rw [hblank]
    exact normal_foldedNames " " (by decide)
  · have hnormal : normal name = foldAlias (Text.lower (Text.trim name)) := if_neg hblank
    rw [hnormal]
    rcases foldAlias_cases (Text.lower (Text.trim name)) with hfolded | hkept
    · exact normal_foldedNames _ hfolded
    · -- the name has been trimmed and lowered, and there is nothing to fold
      rw [hkept, normal]
      split
      · rename_i hspace
        exact hspace.symm
      · rw [Text.trim_lower_trim, Text.lower_lower, hkept]

theorem same_iff {a b : String} : same a b = true ↔ normal a = normal b := beq_iff_eq

end Key

namespace Response

/-- A key is accepted when it has the normal form of an authored one. -/
theorem acceptsKey_iff {response : Response} {key : String} :
    response.acceptsKey key = true ↔
      ∃ token ∈ response.keyOptions, Key.normal token = Key.normal key := by
  simp only [acceptsKey, List.any_eq_true, Key.same_iff]

/-- A key is accepted under its normal form as it is under its own name. -/
theorem acceptsKey_normal (response : Response) (key : String) :
    response.acceptsKey (Key.normal key) = response.acceptsKey key := by
  rw [Bool.eq_iff_iff, acceptsKey_iff, acceptsKey_iff, Key.normal_normal]

end Response

end TimedTrials
