/-
  TimedTrials/Proofs/Sequence/AuthoredSequence.lean
  =================================================
  **From authored rows to the sequence that is run.**

  Each row that is not blank comes up as often in the sequence as the rows say: the repeat count
  is the one that the first row of the block asks for, or the first row of the lowest block of its
  section, times the repetitions of the whole. The rows also say how many trials that makes, and
  hence whether there is a sequence: validation bounds the repeats and the repetitions, but nothing
  bounds their product, and the program stops where it is too large (`compileWith_authored`).
-/
import TimedTrials.Proofs.Sequence.Multiplicity
import TimedTrials.Proofs.Table.Validation

namespace TimedTrials.Validation

/-! ### What the rows say -/

/-- The repeat count that the first row of a block asks for. -/
def blockRepeats (rows : List NumberedRow) (number : Int) : Nat :=
  ((rows.find? (NumberedRow.isIn number)).map (·.2.repeatsCell)).getD 1

/-- The block numbers of the rows that share the section of a number. -/
def sectionNumbers (rows : List NumberedRow) (number : Int) : List Int :=
  (rows.filterMap (·.2.block?)).filter (· / sectionSpan == number / sectionSpan)

/-- The number of the block that settles how often a block is repeated: its own, or the lowest
    one of its section. -/
def leadingNumber (rows : List NumberedRow) (number : Int) : Int :=
  if number < sectionSpan then number else ((sectionNumbers rows number).min?).getD number

/-- How often a row is shown in one pass. -/
def rowRepeats (rows : List NumberedRow) (p : NumberedRow) : Nat :=
  (p.2.block?.map fun number => blockRepeats rows (leadingNumber rows number)).getD 0

/-- How many trials the rows ask for. -/
def shownTrials (rows : List NumberedRow) (repetitions : Nat) : Nat :=
  (rows.map (rowRepeats rows)).sum * repetitions

/-- A sequence in which every row that is not blank has its trial as often as the rows say, and
    nothing else. -/
structure Unfolds (options : ValidationOptions) (rows : List AuthoredRow) (repetitions : Nat)
    (trials : List TrialInstance) : Prop where
  occurs : ∀ (i : Nat) (raw : AuthoredRow), rows[i]? = some raw → raw.isBlank = false →
    ∃ spec, raw.spec? options (i + 1) = some spec ∧ spec.row = i + 1 ∧
      raw.block? = some spec.block ∧
      (trials.map (·.spec)).count spec =
        repetitions * blockRepeats (authored rows) (leadingNumber (authored rows) spec.block)
  only : ∀ trial ∈ trials, ∃ (i : Nat) (raw : AuthoredRow), rows[i]? = some raw ∧
    raw.isBlank = false ∧ raw.spec? options (i + 1) = some trial.spec
  positions : ∀ (i : Nat) (trial : TrialInstance), trials[i]? = some trial →
    trial.sequencePosition = i

/-! ### The table of accepted rows -/

variable {options : ValidationOptions} {rows : List NumberedRow} {entries : List TableEntry}
  {t : TrialTable} {b leader : Block}

theorem mem_trials_iff (h : t.Gathers entries) (hb : b ∈ t.blocks) {spec : TrialSpec} :
    spec ∈ b.trials ↔ (∃ entry ∈ entries, entry.1 = spec) ∧ spec.block = b.number := by
  rw [(h.blocks b hb).trials]
  simp only [List.mem_map, List.mem_filter, TableEntry.isIn, beq_iff_eq]
  constructor
  · rintro ⟨entry, ⟨hentry, hblock⟩, rfl⟩
    exact ⟨⟨entry, hentry, rfl⟩, hblock⟩
  · rintro ⟨⟨entry, hentry, rfl⟩, hblock⟩
    exact ⟨entry, ⟨hentry, hblock⟩, rfl⟩

theorem numbered_of_gathers (h : t.Gathers entries) (hnodup : (entries.map (·.1)).Nodup) :
    t.Numbered where
  distinct := h.distinct
  trials _ hb _ hspec := ((mem_trials_iff h hb).mp hspec).2
  nodup b hb := by
    rw [(h.blocks b hb).trials]
    exact hnodup.sublist (List.filter_sublist.map _)

theorem exists_block (h : t.Gathers entries) {entry : TableEntry} (hentry : entry ∈ entries) :
    ∃ b ∈ t.blocks, entry.1 ∈ b.trials := by
  obtain ⟨b, hb, hnumber⟩ := List.mem_map.mp (h.covered entry hentry)
  exact ⟨b, hb, (mem_trials_iff h hb).mpr ⟨⟨entry, hentry, rfl⟩, hnumber.symm⟩⟩

/-- The entry that opened a block. -/
theorem exists_first (h : t.Gathers entries) (hb : b ∈ t.blocks) :
    ∃ entry, entries.find? (TableEntry.isIn b.number) = some entry ∧ entry ∈ entries ∧
      entry.1.block = b.number ∧ entry.2 = b.repeatCount := by
  obtain ⟨entry, hfind, hrepeat⟩ := Option.map_eq_some_iff.mp (h.blocks b hb).repeatCount
  have hin : TableEntry.isIn b.number entry = true := List.find?_some hfind
  exact ⟨entry, hfind, List.mem_of_find?_eq_some hfind, eq_of_beq hin, hrepeat⟩

/-- A table of accepted rows can be run. -/
theorem runnable_of_gathers (haccepted : Accepted options rows entries) (hrows : rows ≠ [])
    (h : t.Gathers entries) : t.Runnable := by
  refine ⟨?_, ?_, ?_⟩
  · obtain ⟨p, hp⟩ := List.exists_mem_of_ne_nil rows hrows
    obtain ⟨entry, hentry, _⟩ := haccepted.exists_entry hp
    obtain ⟨b, hb, _⟩ := exists_block h hentry
    exact List.ne_nil_of_mem hb
  · intro b hb
    obtain ⟨entry, _, hentry, hblock, _⟩ := exists_first h hb
    exact List.ne_nil_of_mem ((mem_trials_iff h hb).mpr ⟨⟨entry, hentry, rfl⟩, hblock⟩)
  · intro b hb
    obtain ⟨entry, _, hentry, _, hrepeat⟩ := exists_first h hb
    exact hrepeat ▸ haccepted.pos entry hentry

/-! ### Repeat counts -/

/-- A block is repeated as often as its first row asks for. -/
theorem blockRepeats_eq (haccepted : Accepted options rows entries) (h : t.Gathers entries)
    (hb : b ∈ t.blocks) : blockRepeats rows b.number = b.repeatCount := by
  cases hfind : rows.find? (NumberedRow.isIn b.number) with
  | none =>
    obtain ⟨entry, hentry, _⟩ := exists_first h hb
    rw [find?_eq_none_of_makes haccepted.makes hfind] at hentry
    cases hentry
  | some p =>
    have hrepeat := haccepted.repeats b.number p hfind
    rw [(h.blocks b hb).repeatCount, Option.some.injEq] at hrepeat
    rw [blockRepeats, hfind, Option.map_some, Option.getD_some, hrepeat]

theorem mem_numbers_iff (haccepted : Accepted options rows entries) (h : t.Gathers entries)
    {number : Int} :
    number ∈ rows.filterMap (·.2.block?) ↔ ∃ b ∈ t.blocks, b.number = number := by
  rw [List.mem_filterMap]
  constructor
  · rintro ⟨p, hp, hblock⟩
    obtain ⟨entry, hentry, hmakes⟩ := haccepted.exists_entry hp
    obtain rfl := Option.some.inj (hmakes.block.symm.trans hblock)
    exact List.mem_map.mp (h.covered entry hentry)
  · rintro ⟨b, hb, rfl⟩
    obtain ⟨entry, _, hentry, hblock, _⟩ := exists_first h hb
    obtain ⟨p, hp, hmakes⟩ := haccepted.exists_row hentry
    exact ⟨p, hp, hblock ▸ hmakes.block⟩

/-- The rows name the leading block of every block. -/
theorem leadingNumber_eq (haccepted : Accepted options rows entries) (h : t.Gathers entries)
    (hleader : TrialTable.Leader t b leader) :
    leadingNumber rows b.number = leader.number := by
  unfold leadingNumber
  split
  · rename_i hlt
    rw [hleader.fixed (TrialTable.kind_eq_fixed_iff.mpr hlt)]
  · rename_i hge
    -- the block numbers among the rows are those of the table, so both have the same lowest one
    have hsectioned : b.kind ≠ .fixed := fun hfixed => hge (TrialTable.kind_eq_fixed_iff.mp hfixed)
    have hmin : (sectionNumbers rows b.number).min? = some leader.number := by
      simp only [sectionNumbers, List.min?_eq_some_iff, List.mem_filter, beq_iff_eq,
        mem_numbers_iff haccepted h]
      refine ⟨⟨⟨leader, hleader.mem, rfl⟩, ?_⟩, ?_⟩
      · exact (TrialTable.kind_eq_iff_of_sectioned hsectioned).mp hleader.kind
      · rintro _ ⟨⟨c, hc, rfl⟩, hsection⟩
        have hkind := (TrialTable.kind_eq_iff_of_sectioned hsectioned).mpr hsection
        exact hleader.least hsectioned c hc hkind
    rw [hmin, Option.getD_some]

theorem repeats_eq (haccepted : Accepted options rows entries) (h : t.Gathers entries)
    (hb : b ∈ t.blocks) :
    TrialTable.repeats t.sections b = blockRepeats rows (leadingNumber rows b.number) := by
  obtain ⟨leader, hleader⟩ := TrialTable.exists_leader hb
  rw [leadingNumber_eq haccepted h hleader, blockRepeats_eq haccepted h hleader.mem,
    hleader.repeatCount]

/-! ### The length -/

/-- Entries can be summed up number by number. -/
theorem sum_filter_isIn (k : Int → Nat) {numbers : List Int} (hnodup : numbers.Nodup)
    (hcovered : ∀ entry ∈ entries, entry.1.block ∈ numbers) :
    (numbers.map fun number => (entries.filter (TableEntry.isIn number)).length * k number).sum =
      (entries.map fun entry => k entry.1.block).sum := by
  induction entries with
  | nil => simp
  | cons entry entries ih =>
    rw [List.forall_mem_cons] at hcovered
    have hown : (numbers.map fun number => if number = entry.1.block then k entry.1.block else 0).sum
        = k entry.1.block := by
      have hcount := List.count_eq_one_of_mem hnodup hcovered.1
      rw [List.count_eq_countP] at hcount
      simp only [beq_eq_decide] at hcount
      rw [TrialTable.sum_map_ite_const, hcount, Nat.one_mul]
    rw [List.map_cons, List.sum_cons, ← ih hcovered.2, ← hown, ← List.sum_map_add]
    refine congrArg List.sum (List.map_congr_left fun number _ => ?_)
    by_cases hnumber : number = entry.1.block
    · rw [List.filter_cons_of_pos (by simp [TableEntry.isIn, hnumber]), if_pos hnumber,
        List.length_cons, Nat.add_one_mul, Nat.add_comm, hnumber]
    · rw [List.filter_cons_of_neg (by simpa [TableEntry.isIn] using Ne.symm hnumber),
        if_neg hnumber, Nat.zero_add]

theorem sum_map_block? (k : Int → Nat) (hmakes : List.Forall₂ (Makes options) rows entries) :
    (rows.map fun p => (p.2.block?.map k).getD 0).sum =
      (entries.map fun entry => k entry.1.block).sum := by
  induction hmakes with
  | nil => rfl
  | cons hmakes _ ih =>
    rw [List.map_cons, List.map_cons, List.sum_cons, List.sum_cons, ih, hmakes.block,
      Option.map_some, Option.getD_some]

/-- A table's run shows as many trials as its rows ask for. -/
theorem runLength_eq (haccepted : Accepted options rows entries) (h : t.Gathers entries)
    (repetitions : Nat) : t.runLength repetitions = shownTrials rows repetitions := by
  have hshare : t.blocks.map t.share = (t.blocks.map (·.number)).map fun number =>
      (entries.filter (TableEntry.isIn number)).length *
        blockRepeats rows (leadingNumber rows number) := by
    rw [List.map_map]
    refine List.map_congr_left fun b hb => ?_
    rw [TrialTable.share, repeats_eq haccepted h hb, (h.blocks b hb).trials, List.length_map]
    rfl
  have hentries := sum_map_block? (fun number => blockRepeats rows (leadingNumber rows number))
    haccepted.makes
  rw [TrialTable.runLength, hshare,
    sum_filter_isIn (fun number => blockRepeats rows (leadingNumber rows number)) h.distinct
      h.covered, ← hentries]
  rfl

/-! ### The sequence -/

theorem unfolds_of_emitted {rows : List AuthoredRow} {repetitions : Nat}
    {trials : List TrialInstance} (haccepted : Accepted options (authored rows) entries)
    (hgathers : t.Gathers entries)
    (hemitted : TrialTable.Emitted (t.passes repetitions) trials) :
    Unfolds options rows repetitions (TrialTable.numbered trials) := by
  have hnumbered := numbered_of_gathers hgathers (haccepted.nodup (nodup_authored rows))
  refine ⟨?_, ?_, ?_⟩
  · intro i raw hraw hblank
    have hmem : (i + 1, raw) ∈ authored rows := mem_authored_iff.mpr ⟨i, rfl, hraw, hblank⟩
    obtain ⟨entry, hentry, hmakes⟩ := haccepted.exists_entry hmem
    obtain ⟨b, hb, hspec⟩ := exists_block hgathers hentry
    refine ⟨entry.1, hmakes.spec, hmakes.row, hmakes.block, ?_⟩
    rw [TrialTable.map_numbered _ fun _ _ => rfl, hemitted.count hnumbered hb hspec,
      repeats_eq haccepted hgathers hb, hnumbered.trials b hb entry.1 hspec]
  · intro trial htrial
    have hspec := List.mem_map_of_mem (f := (·.spec)) htrial
    rw [TrialTable.map_numbered _ fun _ _ => rfl] at hspec
    obtain ⟨b, hb, hspec⟩ := hemitted.exists_block hspec
    obtain ⟨⟨entry, hentry, heq⟩, _⟩ := (mem_trials_iff hgathers hb).mp hspec
    obtain ⟨p, hp, hmakes⟩ := haccepted.exists_row hentry
    obtain ⟨i, hrow, hraw, hblank⟩ := mem_authored_iff.mp hp
    exact ⟨i, p.2, hraw, hblank, hrow ▸ heq ▸ hmakes.spec⟩
  · intro i trial htrial
    rw [TrialTable.numbered_getElem?] at htrial
    obtain ⟨_, _, rfl⟩ := Option.map_eq_some_iff.mp htrial
    rfl

/-- What is reserved for the table of accepted rows: room for the trials that they ask for, or the
    program stops because there can be none. -/
theorem reserve_cases_of_validate {rows : List AuthoredRow} {table : TrialTable}
    (hvalid : validate options rows = .ok table) {repetitions : Nat}
    (hrepetitions : 1 ≤ repetitions) :
    (∃ n, table.reserve repetitions = .ok n ∧
        shownTrials (authored rows) repetitions ≤ TrialTable.mostInstances) ∨
      ∃ o, table.reserve repetitions = .error (.stopped o) ∧
        TrialTable.mostInstances < shownTrials (authored rows) repetitions := by
  obtain ⟨hrows, entries, haccepted, hgathers⟩ := accepted_of_validate hvalid
  rw [← runLength_eq haccepted hgathers]
  rcases (runnable_of_gathers haccepted hrows hgathers).reserve_cases hrepetitions with
    ⟨n, hroom, _, hle⟩ | hstop
  · exact .inl ⟨n, hroom, hle⟩
  · exact .inr hstop

/-- **What is compiled from accepted rows unfolds them**, shuffled or not and from whatever state of
    chance. They are compiled if and only if there can be room for the trials that they ask for;
    and if there cannot, nothing is given back, but the program stops. -/
theorem compileWith_authored {rows : List AuthoredRow} {table : TrialTable} {γ : Type}
    {shuffle : TrialTable.Shuffle γ} (hshuffle : shuffle.Permutes)
    (hvalid : validate options rows = .ok table) {repetitions : Nat}
    (hrepetitions : 1 ≤ repetitions) (randomize : Bool) (g : γ) :
    (∀ trials g', table.compileWith shuffle ⟨repetitions, randomize⟩ g = .ok (trials, g') →
        Unfolds options rows repetitions trials) ∧
      ((∃ compiled, table.compileWith shuffle ⟨repetitions, randomize⟩ g = .ok compiled) ↔
        shownTrials (authored rows) repetitions ≤ TrialTable.mostInstances) ∧
      (TrialTable.mostInstances < shownTrials (authored rows) repetitions →
        ∃ o, table.compileWith shuffle ⟨repetitions, randomize⟩ g = .error (.stopped o)) := by
  obtain ⟨_, entries, haccepted, hgathers⟩ := accepted_of_validate hvalid
  have hunfolds : ∀ trials g',
      table.compileWith shuffle ⟨repetitions, randomize⟩ g = .ok (trials, g') →
        Unfolds options rows repetitions trials := by
    intro trials g' hcompile
    obtain ⟨_, emitted, _, rfl, hemitted⟩ := TrialTable.emitted_of_compileWith hshuffle hcompile
    exact unfolds_of_emitted haccepted hgathers hemitted
  refine ⟨hunfolds, ?_⟩
  rcases reserve_cases_of_validate hvalid hrepetitions with ⟨n, hroom, hle⟩ | ⟨o, hstop, hlt⟩
  · refine ⟨iff_of_true ?_ hle, fun hlt => absurd hle (Nat.not_le.mpr hlt)⟩
    exact TrialTable.exists_compileWith_iff.mpr ⟨n, hroom⟩
  · have herror : table.compileWith shuffle ⟨repetitions, randomize⟩ g = .error (.stopped o) :=
      TrialTable.compileWith_eq_error_iff.mpr hstop
    refine ⟨iff_of_false ?_ (Nat.not_le.mpr hlt), fun _ => ⟨o, herror⟩⟩
    rintro ⟨_, hcompile⟩
    cases herror.symm.trans hcompile

/-- A section that is led by its last row, a fixed block and a blank row. -/
def lateLeaderRows : List AuthoredRow :=
  [.ofCells ["102", "5", "x", "NA", "100"], .ofCells ["1", "", "+", "NA", "100"], .ofCells [],
    .ofCells ["101", "2", "y", "NA", "100"]]

/-- The table of these rows. -/
def lateLeaderTable : TrialTable :=
  ⟨[⟨102, 5, [.timed 1 102 "x" 100]⟩, ⟨1, 1, [.timed 2 1 "+" 100]⟩,
    ⟨101, 2, [.timed 4 101 "y" 100]⟩]⟩

theorem compileWith_authored_lateLeaderRows :
    TrialTable.Shuffle.Permutes Random.shuffle ∧
      validate (.standard fun _ => false) lateLeaderRows = .ok lateLeaderTable ∧ 1 ≤ 3 ∧
      ∃ trials g', lateLeaderTable.compileWith Random.shuffle ⟨3, true⟩ (.cycle [1])
          = .ok (trials, g') ∧
        Unfolds (.standard fun _ => false) lateLeaderRows 3 trials := by
  have hvalid : validate (.standard fun _ => false) lateLeaderRows = .ok lateLeaderTable := rfl
  have hrepetitions : 1 ≤ 3 := by decide
  obtain ⟨hunfolds, hcompiled, -⟩ := compileWith_authored TrialTable.shuffle_permutes hvalid
    hrepetitions true (.cycle [1])
  obtain ⟨⟨trials, g'⟩, hcompile⟩ := hcompiled.mpr (by decide)
  exact ⟨TrialTable.shuffle_permutes, hvalid, hrepetitions, trials, g', hcompile,
    hunfolds trials g' hcompile⟩

/-! ### Rows that ask for too much -/

/-- The rows of a block that is repeated as often as can be asked for. -/
def oftenRepeatedRows : List AuthoredRow :=
  [.ofCells ["1", "4294967295", "a", "NA", "100"], .ofCells ["1", "", "b", "NA", "100"]]

theorem validate_oftenRepeatedRows (isFile : String → Bool) :
    validate (.standard isFile) oftenRepeatedRows = .ok TrialTable.oftenRepeated := rfl

/-- **Accepted rows need not have a sequence.** Repeated as often again, two trials are too many for
    a word, and the program stops while it counts them, shuffled or not. -/
theorem compile_stopped :
    validate (.standard fun _ => false) oftenRepeatedRows = .ok TrialTable.oftenRepeated ∧
      ∀ randomize g,
        TrialTable.oftenRepeated.compile ⟨4294967295, randomize⟩ g = .error (.stopped .run) :=
  ⟨validate_oftenRepeatedRows _, fun _ _ => rfl⟩

end TimedTrials.Validation
