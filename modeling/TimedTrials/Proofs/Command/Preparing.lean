/-
  TimedTrials/Proofs/Command/Preparing.lean
  =========================================
  **What the sequence of a table depends on.**

  An accepted table has a sequence, or the program stops because that is too long
  (`compile_cases`). With a seed both come from the table and the choices alone
  (`sequenced_eq_of_seed`, `sequenced_eq_stopped`). Further files in the tree do not matter: a
  table that is accepted stays the same table when more images are there (`exists_prepare`).
-/
import TimedTrials.Command.Perform
import TimedTrials.Proofs.Sequence.Origin

namespace TimedTrials

/-! ### More files -/

/-- Under the other options images are looked for in the same way, among more files. -/
structure ValidationOptions.FindsMore (options options' : ValidationOptions) : Prop where
  imageDir : options'.imageDir = options.imageDir
  checkImages : options'.checkImages = options.checkImages
  isFile : ∀ path, options.isFile path = true → options'.isFile path = true

section FindsMore

variable {options options' : ValidationOptions} {first : Bool} {row : Nat} {raw : AuthoredRow}

theorem AuthoredRow.Sound.of_findsMore (hmore : options.FindsMore options')
    (h : raw.Sound options first) : raw.Sound options' first :=
  { h with
    stimulus := by
      obtain ⟨stimulus, hread, hfiles⟩ := h.stimulus
      refine ⟨stimulus, hread, ?_⟩
      intro hcheck image himage
      rw [hmore.imageDir]
      exact hmore.isFile _ (hfiles (hmore.checkImages ▸ hcheck) image himage) }

/-- The check of a sound row does not look at the files any more. -/
theorem AuthoredRow.Sound.check_eq (hmore : options.FindsMore options')
    (h : raw.Sound options first) (row : Nat) :
    raw.check options' first row = raw.check options first row := by
  obtain ⟨repeats, hcheck⟩ := check_of_sound h row
  obtain ⟨repeats', hcheck'⟩ := check_of_sound (h.of_findsMore hmore) row
  obtain ⟨_, _, _, _, _, hrepeats, _⟩ := check_eq_ok_iff.mp hcheck
  obtain ⟨_, _, _, _, _, hrepeats', _⟩ := check_eq_ok_iff.mp hcheck'
  obtain rfl := Except.ok.inj (hrepeats.symm.trans hrepeats')
  exact hcheck'.trans hcheck.symm

/-- **An accepted table stays accepted, and is the same table**, when there are more files. -/
theorem validate_of_findsMore (hmore : options.FindsMore options') {rows : List AuthoredRow}
    {table : TrialTable} (h : validate options rows = .ok table) :
    validate options' rows = .ok table := by
  obtain ⟨hsound, rfl⟩ := Validation.stateAfter_of_validate h
  have hsound' : Validation.AllSound options' rows := by
    intro i raw hraw hblank
    exact (hsound i raw hraw hblank).of_findsMore hmore
  have hpushed : (Validation.authored rows).filterMap (Validation.pushed? options' rows) =
      (Validation.authored rows).filterMap (Validation.pushed? options rows) := by
    apply List.filterMap_congr
    intro p hp
    rw [Validation.pushed?, Validation.pushed?,
      (Validation.allSound_iff.mp hsound p hp).check_eq hmore]
  have hbuilder : (Validation.stateAfter options' rows).builder =
      (Validation.stateAfter options rows).builder := by
    rw [Validation.stateAfter_builder, Validation.stateAfter_builder, hpushed]
  have hrows : Validation.authored rows ≠ [] := (Validation.accepted_of_validate h).1
  rcases Validation.validate_cases options' rows with ⟨hnone, _⟩ | ⟨_, _, hok⟩ | ⟨_, hproblems, _⟩
  · exact absurd hnone hrows
  · rw [hok, hbuilder]
  · exact absurd (Validation.stateAfter_problems_eq_nil_iff.mpr hsound') hproblems

end FindsMore

namespace Command

variable {s s' : Storage} {t : TableChoice} {run : Option RunChoice} {prepared : Prepared}

/-! ### Preparing -/

/-- A table was prepared from rows in its file. -/
structure PreparedFrom (s : Storage) (t : TableChoice) (run : Option RunChoice)
    (prepared : Prepared) (content : ByteArray) (file : TableFile) : Prop where
  read : s.read t.table = .ok content
  rows : TableFile.read content.toList = .ok file
  repetitions : ∃ n, readRepetitions t.repetitions = .ok n ∧ prepared.config = configOf t n run
  valid : TimedTrials.validate ⟨t.images, true, s.isFile⟩ file.rows = .ok prepared.table

theorem readRepetitions_pos {raw : String} {n : Nat} (h : readRepetitions raw = .ok n) :
    1 ≤ n := by
  unfold readRepetitions at h
  split at h
  · split at h
    · rename_i hpos
      exact Except.ok.inj h ▸ hpos
    · cases h
  · cases h

theorem repetitions_configOf (t : TableChoice) (n : Nat) (run : Option RunChoice) :
    (configOf t n run).repetitions = n := by
  cases run <;> rfl

theorem exists_preparedFrom (h : prepare s t run = .ok prepared) :
    ∃ content file, PreparedFrom s t run prepared content file := by
  unfold prepare readTable at h
  cases hread : s.read t.table with
  | error e => simp [hread] at h
  | ok content =>
    cases hfile : TableFile.read content.toList with
    | error e => simp [hread, hfile] at h
    | ok file =>
      simp only [hread, hfile] at h
      split at h
      · rename_i n table hrepetitions hvalid
        obtain rfl := Except.ok.inj h
        exact ⟨content, file, hread, hfile, ⟨n, hrepetitions, rfl⟩, hvalid⟩
      · cases h

/-- Nothing but the table's content and the files that were looked for matters. -/
theorem PreparedFrom.exists_prepare {content : ByteArray} {file : TableFile}
    (h : PreparedFrom s t run prepared content file) (hcontent : s'.read t.table = .ok content)
    (hfiles : ∀ path, s.isFile path = true → s'.isFile path = true) :
    ∃ log, prepare s' t run = .ok { prepared with log := log } := by
  obtain ⟨n, hrepetitions, hconfig⟩ := h.repetitions
  have hmore : ValidationOptions.FindsMore ⟨t.images, true, s.isFile⟩ ⟨t.images, true, s'.isFile⟩ :=
    ⟨rfl, rfl, hfiles⟩
  have hvalid := validate_of_findsMore hmore h.valid
  simp only [prepare, readTable, hcontent, h.rows, hrepetitions, hvalid, ← hconfig]
  exact ⟨_, rfl⟩

/-- An accepted table has a sequence, of trials that were read from its rows, or the program stops
    because there can be no room for it. -/
theorem PreparedFrom.compile_cases {content : ByteArray} {file : TableFile}
    (h : PreparedFrom s t run prepared content file) (g : Random.Generator) :
    (∃ o, prepared.table.reserve prepared.config.repetitions = .error (.stopped o)) ∨
      ∃ trials g', prepared.table.compile prepared.config.sequenceOptions g = .ok (trials, g') ∧
        ∀ trial ∈ trials, ∃ i raw,
          Validation.Origin ⟨t.images, true, s.isFile⟩ file.rows i raw trial.spec := by
  obtain ⟨n, hrepetitions, hconfig⟩ := h.repetitions
  have hpos : 1 ≤ prepared.config.repetitions := by
    rw [hconfig, repetitions_configOf]
    exact readRepetitions_pos hrepetitions
  rcases Validation.reserve_cases_of_validate h.valid hpos with ⟨n, hroom, _⟩ | ⟨o, hstop, _⟩
  · obtain ⟨⟨trials, g'⟩, hcompile⟩ : ∃ compiled,
        prepared.table.compile prepared.config.sequenceOptions g = .ok compiled :=
      TrialTable.exists_compileWith_iff.mpr ⟨n, hroom⟩
    refine .inr ⟨trials, g', hcompile, ?_⟩
    intro trial htrial
    exact Validation.exists_origin TrialTable.shuffle_permutes h.valid hcompile htrial
  · exact .inl ⟨o, hstop⟩

/-- **With a seed, the sequence depends on the prepared table alone.** All surroundings in which
    the table is prepared get the same trials. -/
theorem sequenced_eq_of_seed (around : Surroundings) {r : RunChoice} {seed n : Nat}
    {trials : List TrialInstance} {g' : Random.Generator} {log : Log} (hseed : r.seed = some seed)
    (hconfig : prepared.config = configOf t n (some r))
    (hcompile : prepared.table.compile prepared.config.sequenceOptions (.ofSeed seed) =
      .ok (trials, g'))
    (hprepare : prepare around.storage t (some r) = .ok { prepared with log := log }) :
    ∃ log g, sequenced around t r = .ok ⟨log, prepared.config, trials, g⟩ := by
  have hgenerator : prepared.config.generator? = some (Random.Generator.ofSeed seed) := by
    rw [hconfig, RunConfig.generator?, show (configOf t n (some r)).seed = r.seed from rfl, hseed]
    rfl
  simp only [sequenced, hprepare, sequenceOf, hgenerator, Option.getD_some, hcompile]
  exact ⟨_, _, rfl⟩

/-- Where there can be no room for the sequence, the program stops, whatever the generator. -/
theorem sequenced_eq_stopped (around : Surroundings) {r : RunChoice} {o : Overflow} {log : Log}
    (hstop : prepared.table.reserve prepared.config.repetitions = .error (.stopped o))
    (hprepare : prepare around.storage t (some r) = .ok { prepared with log := log }) :
    ∃ reports, sequenced around t r =
      .error (.stopped around.storage around.thread reports o) := by
  have hcompile (g : Random.Generator) :
      prepared.table.compile prepared.config.sequenceOptions g = .error (.stopped o) :=
    TrialTable.compileWith_eq_error_iff.mpr hstop
  simp only [sequenced, hprepare, sequenceOf, hcompile]
  exact ⟨_, rfl⟩

end Command

end TimedTrials
