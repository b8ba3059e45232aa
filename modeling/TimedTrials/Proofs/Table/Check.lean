/-
  TimedTrials/Proofs/Table/Check.lean
  ===================================
  **What a row that passes its check is made of.**

  A row passes when each of its cells can be read and its stimulus raises no problem
  (`check_eq_ok_iff`). Whether it is the first row of its block decides about the repeats cell
  and about nothing else, so that the trial of a row does not depend on the rows around it.
-/
import TimedTrials.Table.Validation

namespace TimedTrials.AuthoredRow

variable {options : ValidationOptions} {first : Bool} {row : Nat} {raw : AuthoredRow}

theorem check_eq_ok_iff {spec : TrialSpec} {repeats : Nat} :
    raw.check options first row = .ok (spec, repeats) ↔
      ∃ block latencyMs correct duration,
        raw.readBlock row = .ok block ∧
        raw.readRepeatsIf first row = .ok repeats ∧
        raw.readLatency row (Response.read raw.response).value = .ok latencyMs ∧
        raw.readCorrect row (Response.read raw.response).value = .ok correct ∧
        raw.readFeedbackDuration row = .ok duration ∧
        raw.stimulusProblems options row = [] ∧
        spec = raw.trial row block latencyMs correct duration := by
  constructor
  · intro h
    simp only [check] at h
    split at h
    · rename_i block repeats latencyMs correct duration hproblems hblock hrepeats hlatency
        hcorrect hduration
      obtain ⟨rfl, rfl⟩ := Prod.mk.inj (Except.ok.inj h)
      exact ⟨block, latencyMs, correct, duration, hblock, hrepeats, hlatency, hcorrect, hduration,
        (List.append_eq_nil_iff.mp hproblems).2, rfl⟩
    · cases h
  · rintro ⟨block, latencyMs, correct, duration, hblock, hrepeats, hlatency, hcorrect, hduration,
      hstimulus, rfl⟩
    simp only [check, hblock, hrepeats, hlatency, hcorrect, hduration, hstimulus, problemsOf,
      List.append_nil]

theorem problemsOf_eq_nil_iff {α : Type} {read : Except Problem α} :
    problemsOf read = [] ↔ ∃ value, read = .ok value := by
  cases read with
  | ok value => exact ⟨fun _ => ⟨value, rfl⟩, fun _ => rfl⟩
  | error p => simp [problemsOf]

/-- A row that is refused has a problem to show for it. -/
theorem check_ne_error_nil : raw.check options first row ≠ .error [] := by
  intro h
  simp only [check] at h
  split at h
  · cases h
  · rename_i hother
    have hproblems := Except.error.inj h
    simp only [List.append_eq_nil_iff, problemsOf_eq_nil_iff] at hproblems
    obtain ⟨⟨⟨⟨⟨⟨_, hblock⟩, ⟨_, hrepeats⟩⟩, ⟨_, hlatency⟩⟩, ⟨_, hcorrect⟩⟩, ⟨_, hduration⟩⟩, _⟩ :=
      hproblems
    -- without a problem every cell has been read, and then the row is not refused
    exact hother _ _ _ _ _ (Except.error.inj h) hblock hrepeats hlatency hcorrect hduration

/-! ### Cells -/

/-- The number of repeats that a row asks for, one when its cell is empty. -/
def repeatsCell (raw : AuthoredRow) : Nat :=
  ((nonEmpty? raw.blockRepeats).bind Number.readNat32?).getD 1

theorem readRepeats_eq_ok {repeats : Nat} (h : raw.readRepeats row = .ok repeats) :
    repeats = raw.repeatsCell ∧ 1 ≤ repeats := by
  unfold readRepeats at h
  unfold repeatsCell
  split at h
  · rename_i hempty
    cases h
    simp [hempty]
  · rename_i cell hcell
    split at h
    · rename_i n hn
      split at h
      · rename_i hpos
        cases h
        simp [hcell, hn, hpos]
      · cases h
    · cases h

/-- The row's number only matters for the text of a problem. -/
theorem readBlock_eq_ok_iff {number : Int} :
    raw.readBlock row = .ok number ↔ raw.block? = some number := by
  unfold block? readBlock
  cases nonEmpty? raw.block with
  | none => simp [Except.toOption]
  | some cell => cases hread : Number.readInt64? cell <;> simp [hread, Except.toOption]

/-! ### The trial of a row -/

/-- The trial that a row stands for, whatever block it opens or continues. -/
def spec? (options : ValidationOptions) (row : Nat) (raw : AuthoredRow) : Option TrialSpec :=
  (raw.check options false row).toOption.map (·.1)

theorem spec?_of_check {spec : TrialSpec} {repeats : Nat}
    (h : raw.check options first row = .ok (spec, repeats)) :
    raw.spec? options row = some spec := by
  obtain ⟨block, latencyMs, correct, duration, hblock, _, hrest⟩ := check_eq_ok_iff.mp h
  have hcheck : raw.check options false row = .ok (spec, 1) :=
    check_eq_ok_iff.mpr ⟨block, latencyMs, correct, duration, hblock, rfl, hrest⟩
  rw [spec?, hcheck]
  rfl

theorem block?_of_check {spec : TrialSpec} {repeats : Nat}
    (h : raw.check options first row = .ok (spec, repeats)) : raw.block? = some spec.block := by
  obtain ⟨block, _, _, _, hblock, _, _, _, _, _, rfl⟩ := check_eq_ok_iff.mp h
  exact readBlock_eq_ok_iff.mp hblock

theorem row_of_check {spec : TrialSpec} {repeats : Nat}
    (h : raw.check options first row = .ok (spec, repeats)) : spec.row = row := by
  obtain ⟨_, _, _, _, _, _, _, _, _, _, rfl⟩ := check_eq_ok_iff.mp h
  rfl

theorem repeats_of_check {spec : TrialSpec} {repeats : Nat}
    (h : raw.check options true row = .ok (spec, repeats)) :
    repeats = raw.repeatsCell ∧ 1 ≤ repeats := by
  obtain ⟨_, _, _, _, _, hrepeats, _⟩ := check_eq_ok_iff.mp h
  rw [readRepeatsIf, if_pos rfl] at hrepeats
  exact readRepeats_eq_ok hrepeats

theorem pos_of_check {spec : TrialSpec} {repeats : Nat}
    (h : raw.check options first row = .ok (spec, repeats)) : 1 ≤ repeats := by
  cases first with
  | true => exact (repeats_of_check h).2
  | false =>
    obtain ⟨_, _, _, _, _, hrepeats, _⟩ := check_eq_ok_iff.mp h
    exact Nat.le_of_eq (Except.ok.inj hrepeats)

end TimedTrials.AuthoredRow
