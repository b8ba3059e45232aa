/-
  TimedTrials/Proofs/Table/RowNumbers.lean
  ========================================
  **Which numbers the rows of a file bear when they are checked.**

  Validation counts the rows that it is given, blank ones included, but reading a file drops its
  blank records before that. So a record is known by its place among the records that carry a
  trial (`carried`). Nothing else about it changes: checking commutes with giving rows other
  numbers, cell by cell, row by row and for all rows (`validate_renumber`), and the verdict on a
  file is the verdict on all its records under these other numbers (`validate_read`). They are
  the places in the file just where no blank record stands before.
-/
import TimedTrials.Proofs.Table.Exactness
import TimedTrials.Proofs.Table.RoundTrip

namespace TimedTrials

/-! ### Other row numbers -/

variable (f : Nat → Nat)

/-- The problem with another number for its row. -/
def Problem.renumber : Problem → Problem
  | .emptyBlock row => .emptyBlock (f row)
  | .invalidBlock row value => .invalidBlock (f row) value
  | .invalidBlockRepeats row value => .invalidBlockRepeats (f row) value
  | .invalidLatency row value => .invalidLatency (f row) value
  | .noWayToEnd row => .noWayToEnd (f row)
  | .correctResponseNotOffered row correct options =>
    .correctResponseNotOffered (f row) correct options
  | .invalidFeedbackDuration row value => .invalidFeedbackDuration (f row) value
  | .invalidImageOption row cause => .invalidImageOption (f row) cause
  | .missingImage row file dir => .missingImage (f row) file dir
  | .invalidRepetitions value => .invalidRepetitions value
  | .noTrials => .noTrials

def TrialSpec.renumber (spec : TrialSpec) : TrialSpec := { spec with row := f spec.row }

def Block.renumber (block : Block) : Block :=
  { block with trials := block.trials.map (TrialSpec.renumber f) }

def TrialTable.renumber (table : TrialTable) : TrialTable := ⟨table.blocks.map (Block.renumber f)⟩

def TableBuilder.renumber (builder : TableBuilder) : TableBuilder :=
  { builder with blocks := builder.blocks.map (Block.renumber f) }

/-- A verdict on rows with other numbers for them. -/
def Validation.renumber : Except (List Problem) TrialTable → Except (List Problem) TrialTable
  | .ok table => .ok (table.renumber f)
  | .error problems => .error (problems.map (Problem.renumber f))

variable {f}

/-! ### Rows -/

namespace AuthoredRow

variable {options : ValidationOptions} {first : Bool} {row : Nat} {raw : AuthoredRow}

theorem problemsOf_mapError {α : Type} (read : Except Problem α) :
    problemsOf (read.mapError (Problem.renumber f)) =
      (problemsOf read).map (Problem.renumber f) := by
  cases read <;> rfl

/-- Each cell is read the same way in a row with another number. -/
theorem readBlock_renumber (row : Nat) (raw : AuthoredRow) :
    raw.readBlock (f row) = (raw.readBlock row).mapError (Problem.renumber f) := by
  unfold readBlock
  cases nonEmpty? raw.block with
  | none => rfl
  | some cell => cases hread : Number.readInt64? cell <;> simp only [hread] <;> rfl

theorem readRepeatsIf_renumber (first : Bool) (row : Nat) (raw : AuthoredRow) :
    raw.readRepeatsIf first (f row) =
      (raw.readRepeatsIf first row).mapError (Problem.renumber f) := by
  cases first with
  | false => rfl
  | true =>
    simp only [readRepeatsIf, if_true, readRepeats]
    cases nonEmpty? raw.blockRepeats with
    | none => rfl
    | some cell =>
      cases hread : Number.readNat32? cell with
      | none => simp only [hread]; rfl
      | some n =>
        simp only [hread]
        split <;> rfl

theorem readLatency_renumber (row : Nat) (raw : AuthoredRow) (response : Response) :
    raw.readLatency (f row) response =
      (raw.readLatency row response).mapError (Problem.renumber f) := by
  unfold readLatency
  split
  · split <;> rfl
  · split <;> rfl

theorem readCorrect_renumber (row : Nat) (raw : AuthoredRow) (response : Response) :
    raw.readCorrect (f row) response =
      (raw.readCorrect row response).mapError (Problem.renumber f) := by
  unfold readCorrect
  split
  · split <;> rfl
  · rfl

theorem readFeedbackDuration_renumber (row : Nat) (raw : AuthoredRow) :
    raw.readFeedbackDuration (f row) =
      (raw.readFeedbackDuration row).mapError (Problem.renumber f) := by
  unfold readFeedbackDuration
  split
  · rfl
  · split <;> rfl

theorem stimulusProblems_renumber (options : ValidationOptions) (row : Nat) (raw : AuthoredRow) :
    raw.stimulusProblems options (f row) =
      (raw.stimulusProblems options row).map (Problem.renumber f) := by
  unfold stimulusProblems
  split
  · rfl
  · split
    · rw [List.map_map]
      rfl
    · rfl

/-- A row has the same problems under another number. -/
theorem problems_renumber (options : ValidationOptions) (first : Bool) (row : Nat)
    (raw : AuthoredRow) :
    raw.problems options first (f row) =
      (raw.problems options first row).map (Problem.renumber f) := by
  simp only [problems_eq, readBlock_renumber, readRepeatsIf_renumber, readLatency_renumber,
    readCorrect_renumber, readFeedbackDuration_renumber, stimulusProblems_renumber,
    problemsOf_mapError, List.map_append]

theorem trial_renumber (row : Nat) (raw : AuthoredRow) (block : Int)
    (latencyMs : Option Nat) (correct : Option String) (duration : Option Nat) :
    (raw.trial row block latencyMs correct duration).renumber f =
      raw.trial (f row) block latencyMs correct duration := by
  simp only [TrialSpec.renumber, trial]

/-- A row that passes does so under any number, and its trial bears that number. -/
theorem check_renumber_of_ok {spec : TrialSpec} {repeats : Nat}
    (h : raw.check options first row = .ok (spec, repeats)) :
    raw.check options first (f row) = .ok (spec.renumber f, repeats) := by
  obtain ⟨block, latencyMs, correct, duration, hblock, hrepeats, hlatency, hcorrect, hduration,
    hstimulus, rfl⟩ := check_eq_ok_iff.mp h
  refine check_eq_ok_iff.mpr ⟨block, latencyMs, correct, duration, ?_, ?_, ?_, ?_, ?_, ?_,
    trial_renumber row raw block latencyMs correct duration⟩
  · rw [readBlock_renumber, hblock]
    rfl
  · rw [readRepeatsIf_renumber, hrepeats]
    rfl
  · rw [readLatency_renumber, hlatency]
    rfl
  · rw [readCorrect_renumber, hcorrect]
    rfl
  · rw [readFeedbackDuration_renumber, hduration]
    rfl
  · rw [stimulusProblems_renumber, hstimulus]
    rfl

theorem check_renumber_of_error {problems : List Problem}
    (h : raw.check options first row = .error problems) :
    raw.check options first (f row) = .error (problems.map (Problem.renumber f)) := by
  have hproblems := problems_renumber (f := f) options first row raw
  simp only [AuthoredRow.problems, h] at hproblems
  cases hcheck : raw.check options first (f row) with
  | error others =>
    rw [hcheck] at hproblems
    exact congrArg Except.error hproblems
  | ok pair =>
    -- a row without problems under one number cannot have had one under the other
    rw [hcheck] at hproblems
    obtain rfl := List.map_eq_nil_iff.mp hproblems.symm
    exact absurd h check_ne_error_nil

end AuthoredRow

/-! ### All rows -/

namespace TableBuilder

/-- A builder finds its blocks by their numbers, whatever rows they come from. -/
theorem push_renumber (builder : TableBuilder) (spec : TrialSpec) (repeats : Nat) :
    (builder.renumber f).push (spec.renumber f) repeats =
      (builder.push spec repeats).renumber f := by
  have hplace : (builder.renumber f).place? (spec.renumber f).block = builder.place? spec.block := rfl
  unfold push
  rw [hplace]
  cases builder.place? spec.block with
  | some i =>
    have hblocks : (builder.blocks.map (Block.renumber f)).modify i (·.append (spec.renumber f)) =
        (builder.blocks.modify i (·.append spec)).map (Block.renumber f) := by
      apply List.ext_getElem?
      intro j
      rw [List.getElem?_modify, List.getElem?_map, List.getElem?_map, List.getElem?_modify]
      cases builder.blocks[j]? with
      | none => rfl
      | some block =>
        by_cases hij : i = j
        · simp [hij, Block.append, Block.renumber]
        · simp [hij]
    simp only [renumber, hblocks]
  | none => simp [pushBlock, renumber, Block.renumber, TrialSpec.renumber]

end TableBuilder

namespace Validation

variable {options : ValidationOptions} {rows : List AuthoredRow} {raw : AuthoredRow}

variable (f) in
/-- What is known after some rows, had they other numbers. -/
def State.renumber (s : State) : State :=
  ⟨s.seen, s.problems.map (Problem.renumber f), s.builder.renumber f⟩

/-- Which blocks have been seen does not depend on the numbers of their rows. -/
theorem isFirst_renumber (s : State) (raw : AuthoredRow) :
    (s.renumber f).isFirst raw = s.isFirst raw := by
  simp only [State.isFirst, State.renumber]

theorem see_renumber (s : State) (raw : AuthoredRow) : (s.renumber f).see raw = s.see raw := by
  simp only [State.see, State.renumber]

/-- **One row** taken under another number. -/
theorem take_renumber (s : State) (row : Nat) (raw : AuthoredRow) :
    (s.renumber f).take options (f row) raw = (s.take options row raw).renumber f := by
  unfold State.take
  rw [isFirst_renumber, see_renumber]
  cases hcheck : raw.check options (s.isFirst raw) row with
  | ok pair =>
    obtain ⟨spec, repeats⟩ := pair
    rw [AuthoredRow.check_renumber_of_ok hcheck]
    simp only [State.renumber, TableBuilder.push_renumber]
  | error problems =>
    rw [AuthoredRow.check_renumber_of_error hcheck]
    simp only [State.renumber, List.map_append]

theorem foldl_take_renumber (numbered : List NumberedRow) (s : State) :
    (numbered.map fun p => (f p.1, p.2)).foldl (fun s p => s.take options p.1 p.2)
        (s.renumber f) =
      (numbered.foldl (fun s p => s.take options p.1 p.2) s).renumber f := by
  induction numbered generalizing s with
  | nil => rfl
  | cons p numbered ih =>
    rw [List.map_cons, List.foldl_cons, List.foldl_cons, take_renumber, ih]

/-- **All rows.** When the rows that carry a trial are the same under other numbers, so is the
    verdict. -/
theorem validate_renumber {others : List AuthoredRow}
    (h : authored others = (authored rows).map fun p => (f p.1, p.2)) :
    validate options others = renumber f (validate options rows) := by
  have hstate : (authored others).foldl (fun s p => s.take options p.1 p.2) State.start =
      ((authored rows).foldl (fun s p => s.take options p.1 p.2) State.start).renumber f := by
    rw [h]
    exact foldl_take_renumber (authored rows) State.start
  unfold validate
  simp only [hstate]
  have hempty : (authored others).isEmpty = (authored rows).isEmpty := by
    rw [h, List.isEmpty_map]
  rw [hempty]
  generalize (authored rows).foldl (fun s p => s.take options p.1 p.2) State.start = s
  cases (authored rows).isEmpty with
  | true => rfl
  | false =>
    simp only [Bool.false_eq_true, if_false, State.renumber, List.isEmpty_map]
    cases s.problems.isEmpty with
    | true => rfl
    | false => rfl

/-! ### Blank rows -/

/-- The number of a row when blank rows before it are not counted. -/
def carried (rows : List AuthoredRow) (n : Nat) : Nat := (rows.take n).countP (!·.isBlank)

/-- Without the blank rows, the others are what they were, numbered among themselves. -/
theorem authored_filter (rows : List AuthoredRow) :
    authored (rows.filter (!·.isBlank)) =
      (authored rows).map fun p => (carried rows p.1, p.2) := by
  induction rows using List.reverseRecOn with
  | nil => rfl
  | append_singleton rows raw ih =>
    -- a row further down does not change the numbers of those before it
    have hsame : ((authored rows).map fun p => (carried (rows ++ [raw]) p.1, p.2)) =
        (authored rows).map fun p => (carried rows p.1, p.2) := by
      apply List.map_congr_left
      intro p hp
      obtain ⟨i, hrow, hraw, _⟩ := mem_authored_iff.mp hp
      have hi : i < rows.length := (List.getElem?_eq_some_iff.mp hraw).1
      rw [carried, carried, List.take_append_of_le_length (by omega)]
    rw [authored_append_singleton, List.map_append, hsame, ← ih, List.filter_append]
    cases hblank : raw.isBlank with
    | true => simp [hblank]
    | false =>
      have hlast : carried (rows ++ [raw]) (rows.length + 1) =
          (rows.filter (!·.isBlank)).length + 1 := by
        simp [carried, List.take_of_length_le, List.countP_eq_length_filter, hblank]
      simp [hblank, authored_append_singleton, hlast]

/-- A row that carries a trial falls behind its place by the blank rows before it. -/
theorem carried_add {i : Nat} (hraw : rows[i]? = some raw) (hblank : raw.isBlank = false) :
    carried rows (i + 1) + (rows.take i).countP (·.isBlank) = i + 1 := by
  obtain ⟨hi, rfl⟩ := List.getElem?_eq_some_iff.mp hraw
  have hsplit := List.length_eq_countP_add_countP (·.isBlank) (l := rows.take i)
  rw [List.length_take, Nat.min_eq_left (Nat.le_of_lt hi)] at hsplit
  have hnext : carried rows (i + 1) = (rows.take i).countP (!·.isBlank) + 1 := by
    rw [carried, List.take_succ_eq_append_getElem hi, List.countP_append, List.countP_singleton,
      hblank]
    rfl
  have hnot : (rows.take i).countP (fun raw => decide ¬ raw.isBlank = true) =
      (rows.take i).countP (!·.isBlank) := by
    congr 1
    funext raw
    cases raw.isBlank <;> rfl
  omega

end Validation

/-! ### Files -/

namespace TableFile

open Validation (carried)

/-- What can be read of a file: a header that tells its version, and data records that are all
    text. -/
structure Holds (bytes : List UInt8) (version : FormatVersion) (data : List (List String)) :
    Prop where
  header : ∃ names, FormatVersion.ofHeader? names = some version ∧
    (Csv.records bytes).mapM cells? = some (names :: data)

theorem Holds.read {bytes : List UInt8} {version : FormatVersion} {data : List (List String)}
    (h : Holds bytes version data) :
    read bytes = .ok ⟨version, (data.map (row version)).filter (!·.isBlank)⟩ := by
  obtain ⟨names, hversion, hrecords⟩ := h.header
  unfold TableFile.read
  cases hbytes : Csv.records bytes with
  | nil =>
    rw [hbytes] at hrecords
    cases hrecords
  | cons head tail =>
    rw [hbytes, List.mapM_cons] at hrecords
    cases hhead : cells? head with
    | none =>
      rw [hhead] at hrecords
      cases hrecords
    | some found =>
      cases htail : tail.mapM cells? with
      | none =>
        rw [hhead, htail] at hrecords
        cases hrecords
      | some cells =>
        rw [hhead, htail] at hrecords
        obtain ⟨rfl, rfl⟩ := List.cons.inj (Option.some.inj hrecords)
        simp only [ofRecords, hhead, hversion, htail, dataRows]

/-- **The rows of a file are checked under the numbers that they have without its blank records.**
    Every file with a header of some version can be read, and the verdict on its rows is the
    verdict on all its data records with other numbers for them: each record that carries a trial
    falls behind its place in the file by the blank records before it, so that it bears its own
    number just when there are none. -/
theorem validate_read (options : ValidationOptions) {bytes : List UInt8}
    {version : FormatVersion} {data : List (List String)} (h : Holds bytes version data) :
    let records := data.map (row version)
    ∃ rows, read bytes = .ok ⟨version, rows⟩ ∧
      validate options rows = Validation.renumber (carried records) (validate options records) ∧
      ∀ i raw, records[i]? = some raw → raw.isBlank = false →
        carried records (i + 1) + (records.take i).countP (·.isBlank) = i + 1 ∧
          (carried records (i + 1) = i + 1 ↔ ∀ other ∈ records.take i, other.isBlank = false) := by
  intro records
  refine ⟨_, h.read, Validation.validate_renumber (Validation.authored_filter records), ?_⟩
  intro i raw hraw hblank
  have hadd := Validation.carried_add hraw hblank
  have hnone : (records.take i).countP (·.isBlank) = 0 ↔
      ∀ other ∈ records.take i, other.isBlank = false := by
    simp only [List.countP_eq_zero, Bool.not_eq_true]
  refine ⟨hadd, ?_⟩
  rw [← hnone]
  omega

/-! ### A blank record in front -/

/-- A blank record, and one whose block is no number. -/
def blankFirstRecords : List (List String) :=
  [List.replicate 10 "", ["x", "", "hi", "NA", "500", "", "", "", "", ""]]

def blankFirstBytes : List UInt8 :=
  Csv.write ((header :: blankFirstRecords).map fun cells => cells.map Csv.encode)

theorem holds_blankFirst : Holds blankFirstBytes .v2 blankFirstRecords := by
  refine ⟨header, ofHeader?_header, ?_⟩
  rw [blankFirstBytes, records_write_of_block exists_writeRecord_header (by decide)]
  exact mapM_cells?_encode (header :: blankFirstRecords)

/-- The row of the second one. -/
def blocklessRow : AuthoredRow := .ofCells ["x", "", "hi", "NA", "500"]

/-- The second record of a file is reported as its first row. -/
theorem blank_record_shifts_row :
    let options := ValidationOptions.standard fun _ => false
    read blankFirstBytes = .ok ⟨.v2, [blocklessRow]⟩ ∧
      (blankFirstRecords.map (row .v2))[1]? = some blocklessRow ∧
      validate options [blocklessRow] = .error [.invalidBlock 1 "x"] ∧
      (Problem.invalidBlock 1 "x").row? ≠ some (1 + 1) := by
  intro options
  have hrows : (blankFirstRecords.map (row .v2)).filter (!·.isBlank) = [blocklessRow] := by decide
  have hverdict : validate options [blocklessRow] = .error [.invalidBlock 1 "x"] := rfl
  refine ⟨?_, rfl, hverdict, by decide⟩
  rw [holds_blankFirst.read, hrows]

/-- All its records checked, the number is that of the second one. -/
theorem validate_read_blankFirst :
    let records := blankFirstRecords.map (row .v2)
    let options := ValidationOptions.standard fun _ => false
    Holds blankFirstBytes .v2 blankFirstRecords ∧
      validate options records = .error [.invalidBlock 2 "x"] ∧
      ∃ rows, read blankFirstBytes = .ok ⟨.v2, rows⟩ ∧
        validate options rows =
          Validation.renumber (carried records) (.error [.invalidBlock 2 "x"]) ∧
        carried records 2 = 1 := by
  intro records options
  have hverdict : validate options records = .error [.invalidBlock 2 "x"] := rfl
  obtain ⟨rows, hread, hvalidate, _⟩ := validate_read options holds_blankFirst
  rw [hverdict] at hvalidate
  exact ⟨holds_blankFirst, hverdict, rows, hread, hvalidate, by decide⟩

end TableFile

end TimedTrials
