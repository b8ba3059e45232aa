/-
  TimedTrials/Proofs/Sequence/Origin.lean
  =======================================
  **Where the trials of a sequence come from.**

  Whatever is compiled from a table that came out of validation was read from a row: for every
  trial of the sequence there is a row that carries one, that is sound, and whose cells stand
  for this trial (`exists_origin`). What is known of sound rows is so known of all that is run.
-/
import TimedTrials.Proofs.Sequence.AuthoredSequence
import TimedTrials.Proofs.Table.Exactness

namespace TimedTrials.Validation

/-- The row that a trial was read from. -/
structure Origin (options : ValidationOptions) (rows : List AuthoredRow) (i : Nat)
    (raw : AuthoredRow) (spec : TrialSpec) : Prop where
  row : rows[i]? = some raw
  carries : raw.isBlank = false
  sound : raw.Sound options (opensBlock (rows.take i) raw)
  spec : spec = raw.cellsTrial (i + 1)

variable {options : ValidationOptions} {rows : List AuthoredRow} {table : TrialTable}

/-- The trials of the blocks are those of sound rows. -/
theorem exists_origin_of_block (hvalid : validate options rows = .ok table) {block : Block}
    (hblock : block ∈ table.blocks) {spec : TrialSpec} (hspec : spec ∈ block.trials) :
    ∃ i raw, Origin options rows i raw spec := by
  obtain ⟨hsound, _⟩ := stateAfter_of_validate hvalid
  rw [(groupsRows_of_validate hvalid).trials block hblock] at hspec
  obtain ⟨⟨row, raw⟩, hmem, rfl⟩ := List.mem_map.mp hspec
  obtain ⟨i, rfl, hraw, hcarries⟩ := mem_authored_iff.mp (List.mem_filter.mp hmem).1
  exact ⟨i, raw, hraw, hcarries, hsound i raw hraw hcarries, rfl⟩

/-- Every trial of a compiled sequence was read from a sound row. -/
theorem exists_origin {γ : Type} {shuffle : TrialTable.Shuffle γ} (hshuffle : shuffle.Permutes)
    (hvalid : validate options rows = .ok table) {sequence : SequenceOptions} {g g' : γ}
    {trials : List TrialInstance}
    (hcompile : table.compileWith shuffle sequence g = .ok (trials, g')) {trial : TrialInstance}
    (htrial : trial ∈ trials) : ∃ i raw, Origin options rows i raw trial.spec := by
  obtain ⟨_, emitted, _, rfl, hemitted⟩ := TrialTable.emitted_of_compileWith hshuffle hcompile
  -- counting the positions leaves the trials as they are
  have hspec : trial.spec ∈ emitted.map (·.spec) := by
    rw [← TrialTable.map_numbered (·.spec) (fun _ _ => rfl) emitted]
    exact List.mem_map_of_mem htrial
  obtain ⟨block, hblock, hin⟩ := hemitted.exists_block hspec
  exact exists_origin_of_block hvalid hblock hin

end TimedTrials.Validation
