/-
  TimedTrials/Proofs/Command/RunLength.lean
  =========================================
  **When the number of trials per run comes out, and that it is the true one.**

  Validation bounds the repeats of each block and the repetitions of the whole by 32 bits, and
  nothing bounds their product. The number that is counted ahead is the number of trials that the
  rows ask for, if all numbers on the way fit words of 64 bits (`Fits`); they do if trials times
  repetitions are at most `2 ^ 32` (`fits_of_few`), and two trials are enough for them not to
  (`count_stopped`). The command that sums a table up prints the number where it comes out, and is
  stopped where it does not (`performValidate_cases`).
-/
import Mathlib.Algebra.BigOperators.Group.List.Basic
import TimedTrials.Proofs.Command.Compile
import TimedTrials.Proofs.Number.Numerals

namespace TimedTrials

namespace TrialTable

variable {t : TrialTable} {b : Block} {repetitions n : Nat}

/-! ### The numbers on the way -/

/-- The numbers that come up while the length is counted: what each block stands for in one pass,
    the sums over the first blocks, and the sum over all of them times the repetitions. -/
inductive Counts (t : TrialTable) (repetitions : Nat) : Nat → Prop where
  | share {b : Block} (hb : b ∈ t.blocks) : t.Counts repetitions (t.share b)
  | sum {first rest : List Block} (hblocks : t.blocks = first ++ rest) :
      t.Counts repetitions (first.map t.share).sum
  | length : t.Counts repetitions (t.runLength repetitions)

/-- None of them is above the length itself. -/
theorem Counts.le (h : t.Counts repetitions n) (hrepetitions : 1 ≤ repetitions) :
    n ≤ t.runLength repetitions := by
  have hpass : (t.blocks.map t.share).sum ≤ t.runLength repetitions :=
    Nat.le_mul_of_pos_right _ hrepetitions
  cases h with
  | @share b hb =>
    obtain ⟨first, rest, hblocks⟩ := List.append_of_mem hb
    rw [hblocks, List.map_append, List.sum_append, List.map_cons, List.sum_cons] at hpass
    omega
  | @sum first rest hblocks =>
    rw [hblocks, List.map_append, List.sum_append] at hpass
    omega
  | length => exact Nat.le_refl _

/-- All the numbers on the way fit a word. -/
def Fits (t : TrialTable) (repetitions : Nat) : Prop :=
  ∀ n, t.Counts repetitions n → n < 2 ^ 64

theorem fits_iff (hrepetitions : 1 ≤ repetitions) :
    t.Fits repetitions ↔ t.runLength repetitions < 2 ^ 64 :=
  ⟨fun h => h _ .length, fun h _ hn => Nat.lt_of_le_of_lt (hn.le hrepetitions) h⟩

/-! ### Bounds -/

/-- If no block is repeated more often than the limit, each trial of a pass comes up as often as
    the limit at most. -/
theorem runLength_le {limit : Nat} (h : ∀ b ∈ t.blocks, repeats t.sections b ≤ limit)
    (repetitions : Nat) : t.runLength repetitions ≤ t.trialCount * repetitions * limit := by
  have hpass : ∀ blocks : List Block, (∀ b ∈ blocks, repeats t.sections b ≤ limit) →
      (blocks.map t.share).sum ≤ (blocks.flatMap (·.trials)).length * limit := by
    intro blocks hblocks
    induction blocks with
    | nil => simp
    | cons b blocks ih =>
      rw [List.forall_mem_cons] at hblocks
      rw [List.map_cons, List.sum_cons, List.flatMap_cons, List.length_append, Nat.add_mul]
      exact Nat.add_le_add (Nat.mul_le_mul_left _ hblocks.1) (ih hblocks.2)
  calc t.runLength repetitions = (t.blocks.map t.share).sum * repetitions := rfl
    _ ≤ t.trialCount * limit * repetitions := Nat.mul_le_mul_right _ (hpass _ h)
    _ = t.trialCount * repetitions * limit := Nat.mul_right_comm _ _ _

theorem fits_of_few (h : ∀ b ∈ t.blocks, repeats t.sections b ≤ Number.max32)
    (hrepetitions : 1 ≤ repetitions) (hfew : t.trialCount * repetitions ≤ 2 ^ 32) :
    t.Fits repetitions := by
  rw [fits_iff hrepetitions]
  calc t.runLength repetitions ≤ t.trialCount * repetitions * Number.max32 :=
        runLength_le h repetitions
    _ ≤ 2 ^ 32 * Number.max32 := Nat.mul_le_mul_right _ hfew
    _ < 2 ^ 64 := by decide

end TrialTable

/-! ### Tables that pass the checks -/

namespace Validation

variable {options : ValidationOptions} {rows : List AuthoredRow} {table : TrialTable}

theorem repeatsCell_le (raw : AuthoredRow) : raw.repeatsCell ≤ Number.max32 := by
  unfold AuthoredRow.repeatsCell
  cases hread : (AuthoredRow.nonEmpty? raw.blockRepeats).bind Number.readNat32? with
  | none => exact Nat.le_of_lt_succ (by decide)
  | some n =>
    obtain ⟨cell, -, hcell⟩ := Option.bind_eq_some_iff.mp hread
    exact (Number.readNat?_eq_some_iff.mp hcell).2

theorem blockRepeats_le (rows : List NumberedRow) (number : Int) :
    blockRepeats rows number ≤ Number.max32 := by
  unfold blockRepeats
  cases rows.find? (NumberedRow.isIn number) with
  | none => exact Nat.le_of_lt_succ (by decide)
  | some p =>
    rw [Option.map_some, Option.getD_some]
    exact repeatsCell_le p.2

theorem repeats_le (h : validate options rows = .ok table) :
    ∀ b ∈ table.blocks, TrialTable.repeats table.sections b ≤ Number.max32 := by
  intro b hb
  obtain ⟨_, entries, haccepted, hgathers⟩ := accepted_of_validate h
  rw [repeats_eq haccepted hgathers hb]
  exact blockRepeats_le _ _

/-- What is counted ahead of a run that shows so many trials: their number, and room for as many,
    as long as the numbers on the way fit. -/
structure CountedAs (table : TrialTable) (repetitions shown : Nat) : Prop where
  expected : ∀ n, table.expectedLength repetitions = .ok n ↔ n.toNat = shown
  capacity : ∀ n, table.capacity repetitions = .ok n ↔
    n.toNat = shown ∧ shown ≤ TrialTable.mostInstances
  counted : (∃ n, table.expectedLength repetitions = .ok n) ↔ table.Fits repetitions
  fits : table.Fits repetitions ↔ shown < 2 ^ 64
  few : table.trialCount * repetitions ≤ 2 ^ 32 → table.Fits repetitions

theorem countedAs_of_validate (h : validate options rows = .ok table) {repetitions : Nat}
    (hrepetitions : 1 ≤ repetitions) :
    CountedAs table repetitions (shownTrials (authored rows) repetitions) := by
  obtain ⟨_, entries, haccepted, hgathers⟩ := accepted_of_validate h
  rw [← runLength_eq haccepted hgathers]
  constructor
  · intro n
    exact TrialTable.expectedLength_eq_ok_iff hrepetitions
  · intro n
    exact TrialTable.capacity_eq_ok_iff hrepetitions
  · rw [TrialTable.exists_expectedLength_iff hrepetitions, TrialTable.fits_iff hrepetitions]
  · exact TrialTable.fits_iff hrepetitions
  · exact TrialTable.fits_of_few (repeats_le h) hrepetitions

theorem length_of_compileWith {γ : Type} {shuffle : TrialTable.Shuffle γ}
    (hshuffle : shuffle.Permutes) (h : validate options rows = .ok table)
    {sequence : SequenceOptions} {g g' : γ} {trials : List TrialInstance}
    (hcompile : table.compileWith shuffle sequence g = .ok (trials, g')) :
    trials.length = shownTrials (authored rows) sequence.repetitions := by
  obtain ⟨hrows, entries, haccepted, hgathers⟩ := accepted_of_validate h
  have hrunnable := runnable_of_gathers haccepted hrows hgathers
  obtain ⟨_, emitted, _, rfl, hemitted⟩ := TrialTable.emitted_of_compileWith hshuffle hcompile
  rw [TrialTable.length_numbered, hemitted.length_eq_add,
    hrunnable.surplus_eq_zero_iff.mpr (TrialTable.soleHeads_of_nodup hgathers.distinct),
    Nat.zero_mul, Nat.add_zero, runLength_eq haccepted hgathers]

end Validation

/-! ### What is printed -/

namespace Command

variable {around : Surroundings} {choice : TableChoice} {prepared : Prepared}

/-- The number that was counted is printed, or the command is stopped. -/
theorem performValidate_cases (h : prepare around.storage choice none = .ok prepared) :
    (∃ n, prepared.table.expectedLength prepared.config.repetitions = .ok n ∧
        performValidate around choice = .success around.storage prepared.log
          [summaryLine choice.table prepared.table n.toNat]) ∨
      ∃ o, prepared.table.expectedLength prepared.config.repetitions = .error o ∧
        performValidate around choice =
          .stopped around.storage around.thread (prepared.log.map .entry) o := by
  simp only [performValidate, h]
  cases prepared.table.expectedLength prepared.config.repetitions with
  | ok n => exact .inl ⟨n, rfl, rfl⟩
  | error o => exact .inr ⟨o, rfl, rfl⟩

/-- How a table is summed up whose run shows so many trials: their number is printed if it can be
    counted, and otherwise the command is stopped before it prints anything. -/
structure SumsUp (around : Surroundings) (choice : TableChoice) (prepared : Prepared)
    (shown : Nat) : Prop where
  printed : prepared.table.Fits prepared.config.repetitions →
    performValidate around choice = .success around.storage prepared.log
      [summaryLine choice.table prepared.table shown]
  stopped : ¬ prepared.table.Fits prepared.config.repetitions → ∃ o,
    performValidate around choice =
      .stopped around.storage around.thread (prepared.log.map .entry) o

theorem sumsUp_of_countedAs {shown : Nat} (h : prepare around.storage choice none = .ok prepared)
    (hcounted : Validation.CountedAs prepared.table prepared.config.repetitions shown) :
    SumsUp around choice prepared shown := by
  rcases performValidate_cases h with ⟨n, hn, hprinted⟩ | ⟨o, ho, hstopped⟩
  · have hfits := hcounted.counted.mp ⟨n, hn⟩
    refine ⟨fun _ => ?_, fun hnot => absurd hfits hnot⟩
    rw [hprinted, (hcounted.expected n).mp hn]
  · refine ⟨fun hfits => ?_, fun _ => ⟨o, hstopped⟩⟩
    obtain ⟨n, hn⟩ := hcounted.counted.mpr hfits
    cases hn.symm.trans ho

end Command

/-- **When the number of trials per run comes out, and that it is the true one**, for all rows and
    all repetitions that pass the checks. What is counted is the number of trials that the rows ask
    for, which is also the length of every sequence that is compiled. It is counted, printed and
    asked room for as long as all products and sums on the way fit, and they do whenever trials
    times repetitions are at most `2 ^ 32`. Where one does not, nothing is printed. -/
theorem Validation.countedAs_authored {options : ValidationOptions}
    {rows : List AuthoredRow} {table : TrialTable} (hvalid : validate options rows = .ok table)
    {raw : String} {repetitions : Nat} (hrepetitions : readRepetitions raw = .ok repetitions) :
    CountedAs table repetitions (shownTrials (authored rows) repetitions) ∧
      (∀ (γ : Type) (shuffle : TrialTable.Shuffle γ) (randomize : Bool) (g g' : γ)
        (trials : List TrialInstance), shuffle.Permutes →
          table.compileWith shuffle ⟨repetitions, randomize⟩ g = .ok (trials, g') →
          trials.length = shownTrials (authored rows) repetitions) ∧
      ∀ around choice prepared, Command.prepare around.storage choice none = .ok prepared →
        prepared.table = table → prepared.config.repetitions = repetitions →
        Command.SumsUp around choice prepared (shownTrials (authored rows) repetitions) := by
  have hcounted := countedAs_of_validate hvalid (Command.readRepetitions_pos hrepetitions)
  refine ⟨hcounted, ?_, ?_⟩
  · intro γ shuffle randomize g g' trials hshuffle hcompile
    exact length_of_compileWith hshuffle hvalid hcompile
  · rintro around choice prepared hprepare rfl rfl
    exact Command.sumsUp_of_countedAs hprepare hcounted

/-! ### Two trials, repeated often -/

namespace Command

def oftenRepeatedFile : ByteArray := (TableFile.write Validation.oftenRepeatedRows).toUTF8

/-- A working directory with nothing but a table. -/
def oftenRepeatedTree : Storage where
  nodes := [(["w"], .directory), (["w", "t.csv"], .file oftenRepeatedFile false)]
  workDir := ["w"]

def oftenRepeatedChoice (repetitions : String) : TableChoice := ⟨"t.csv", repetitions, "images"⟩

theorem exists_prepare_oftenRepeatedTree {raw : String} {n : Nat}
    (h : readRepetitions raw = .ok n) :
    ∃ log, prepare (filesOnly oftenRepeatedTree).storage (oftenRepeatedChoice raw) none =
      .ok ⟨TrialTable.oftenRepeated, configOf (oftenRepeatedChoice raw) n none, log⟩ := by
  have hread : oftenRepeatedTree.read "t.csv" = .ok oftenRepeatedFile := rfl
  have hfrom : PreparedFrom oftenRepeatedTree (oftenRepeatedChoice raw) none
      ⟨TrialTable.oftenRepeated, configOf (oftenRepeatedChoice raw) n none, []⟩
      oftenRepeatedFile ⟨.v2, Validation.oftenRepeatedRows⟩ :=
    { read := hread
      rows := TableFile.read_encode_write Validation.oftenRepeatedRows
      repetitions := ⟨n, h, rfl⟩
      valid := Validation.validate_oftenRepeatedRows _ }
  exact hfrom.exists_prepare hread fun _ h => h

/-- **Two trials can be too many to count.** Repeated as often again, there is no word for their
    number, and nothing is printed. -/
theorem count_stopped :
    TimedTrials.validate (.standard oftenRepeatedTree.isFile) Validation.oftenRepeatedRows =
        .ok TrialTable.oftenRepeated ∧
      readRepetitions "4294967295" = .ok 4294967295 ∧
      Validation.shownTrials (Validation.authored Validation.oftenRepeatedRows) 4294967295 =
        36893488130239234050 ∧
      ¬ TrialTable.oftenRepeated.Fits 4294967295 ∧
      ∃ reports, performValidate (filesOnly oftenRepeatedTree)
          (oftenRepeatedChoice "4294967295") = .stopped oftenRepeatedTree 1 reports .run := by
  have hrepetitions : readRepetitions "4294967295" = .ok 4294967295 := by decide
  have hlength : TrialTable.oftenRepeated.runLength 4294967295 = 36893488130239234050 := rfl
  refine ⟨Validation.validate_oftenRepeatedRows _, hrepetitions, by decide, fun hfits => ?_, ?_⟩
  · have hfit := hfits _ .length
    rw [hlength] at hfit
    exact absurd hfit (by decide)
  · obtain ⟨log, hprepare⟩ := exists_prepare_oftenRepeatedTree hrepetitions
    have hrun := TrialTable.expectedLength_oftenRepeated
    rcases performValidate_cases hprepare with ⟨n, hn, _⟩ | ⟨o, ho, hstopped⟩
    · cases hrun.symm.trans hn
    · obtain rfl : Overflow.run = o := Except.error.inj (hrun.symm.trans ho)
      exact ⟨_, hstopped⟩

/-- Repeated three times, they can be counted, and the number that is printed is the length. -/
theorem countedAs_authored_oftenRepeatedRows :
    TimedTrials.validate (.standard oftenRepeatedTree.isFile) Validation.oftenRepeatedRows =
        .ok TrialTable.oftenRepeated ∧
      readRepetitions " 3 " = .ok 3 ∧
      TrialTable.oftenRepeated.expectedLength 3 = .ok 25769803770 ∧
      (performValidate (filesOnly oftenRepeatedTree) (oftenRepeatedChoice " 3 ")).printed =
        [summaryLine "t.csv" TrialTable.oftenRepeated 25769803770] := by
  have hrepetitions : readRepetitions " 3 " = .ok 3 := by decide
  have hvalid := Validation.validate_oftenRepeatedRows oftenRepeatedTree.isFile
  have hshown : Validation.shownTrials (Validation.authored Validation.oftenRepeatedRows) 3 =
      25769803770 := by decide
  obtain ⟨hcounted, -, hsumsUp⟩ := Validation.countedAs_authored hvalid hrepetitions
  rw [hshown] at hcounted hsumsUp
  obtain ⟨log, hprepare⟩ := exists_prepare_oftenRepeatedTree hrepetitions
  have hprinted := (hsumsUp (filesOnly oftenRepeatedTree) _ _ hprepare rfl rfl).printed
    (hcounted.few (by decide))
  exact ⟨hvalid, hrepetitions, (hcounted.expected 25769803770).mpr rfl,
    congrArg (·.printed) hprinted⟩

end Command

end TimedTrials
