/-
  TimedTrials/Proofs/Table/Versions.lean
  ======================================
  **Files of either version hold the same rows.**

  A record says what stands in the columns of its version and nothing else (`Describes`): what it
  does not reach is empty, what goes beyond the last column reaches no row, and a column that the
  version lacks stays empty. The first version lacks the second column of the current one, so that
  one of its records makes the row of the record with an empty cell put in there (`row_v1`). Both
  versions drop blank rows; a file of the first one is read like the file of the current version
  that holds these longer records (`read_versions_alike`).
-/
import Mathlib.Data.List.Forall2
import TimedTrials.Proofs.Table.RoundTrip
import TimedTrials.Proofs.Text.LetterCase

namespace TimedTrials

/-! ### Rows by their columns -/

namespace AuthoredRow

/-- The cell of a row in a column. -/
def cell (raw : AuthoredRow) : Column → String
  | .block => raw.block
  | .blockRepeats => raw.blockRepeats
  | .stimulus => raw.stimulus
  | .response => raw.response
  | .latency => raw.latency
  | .correctResponse => raw.correctResponse
  | .feedbackText => raw.feedbackText
  | .feedbackDuration => raw.feedbackDuration
  | .stimulusColor => raw.stimulusColor
  | .backgroundColor => raw.backgroundColor

theorem cell_ofCells (cells : List String) (column : Column) :
    (ofCells cells).cell column = cells.getD (Column.all.idxOf column) "" := by
  cases column <;> rfl

/-- A row that is kept holds something that is no blank. -/
theorem exists_nonblank {raw : AuthoredRow} (h : raw.isBlank = false) :
    ∃ column, ∃ c ∈ (raw.cell column).toList, Text.isBlank c = false := by
  have hcells : raw.cells = Column.all.map raw.cell := rfl
  rw [isBlank, hcells, List.all_eq_false] at h
  obtain ⟨cell, hcell, hkept⟩ := h
  obtain ⟨column, _, rfl⟩ := List.mem_map.mp hcell
  rw [Text.isBlankText, Bool.not_eq_true, List.all_eq_false] at hkept
  obtain ⟨c, hc, hnot⟩ := hkept
  exact ⟨column, c, hc, Bool.not_eq_true _ ▸ hnot⟩

end AuthoredRow

namespace FormatVersion

variable {version : FormatVersion} {names : List String}

/-! ### Headers -/

/-- The name of a column in a header: in any case of its letters, with blanks around it. -/
def Spells (column : Column) (name : String) : Prop :=
  ∃ word, Text.Padded word name.toList ∧ Text.SameLetters word column.header.toList

/-- A header row of a version: the names of its columns and no others. -/
def Heads (version : FormatVersion) (names : List String) : Prop :=
  List.Forall₂ Spells version.columns names

theorem unblanked_header (column : Column) : Text.Unblanked column.header.toList := by
  cases column <;> constructor <;> decide

theorem isHeader_iff {column : Column} {name : String} :
    isHeader column name = true ↔ Spells column name := by
  rw [isHeader, beq_iff_eq, Text.lowerAscii, Text.lowerAscii, String.ofList_inj, Text.trim,
    String.toList_ofList]
  constructor
  · intro h
    exact ⟨_, Text.padded_trimChars name.toList, h.symm⟩
  · rintro ⟨word, hname, hword⟩
    rw [hname.trimChars_eq (hword.unblanked (unblanked_header column))]
    exact hword.symm

theorem fits_iff : version.fits names = true ↔ version.Heads names := by
  rw [fits, Bool.and_eq_true, beq_iff_eq, Heads, List.forall₂_iff_zip]
  refine and_congr Iff.rfl ?_
  rw [List.all_eq_true]
  constructor
  · intro h column name hmem
    exact isHeader_iff.mp (h (column, name) hmem)
  · rintro h ⟨column, name⟩ hmem
    exact isHeader_iff.mpr (h hmem)

/-- The version of a file is the one whose columns its header names. -/
theorem ofHeader?_eq_some_iff : ofHeader? names = some version ↔ version.Heads names := by
  rw [← fits_iff, ofHeader?]
  constructor
  · intro h
    have hfits := List.find?_some h
    exact hfits
  · intro h
    cases version with
    | v2 => simp only [List.find?_cons, h]
    | v1 =>
      -- the versions have different numbers of columns
      have hother : FormatVersion.v2.fits names = false := by
        rw [← Bool.not_eq_true]
        intro hboth
        have hlength := (fits_iff.mp hboth).length_eq.trans (fits_iff.mp h).length_eq.symm
        exact absurd hlength (by decide)
      simp only [List.find?_cons, hother, h]

/-! ### Records -/

/-- Up to its width a record is filled up with empty cells and keeps its own. -/
theorem getD_filled {width i : Nat} (h : i < width) (record : List String) :
    (record.take width ++ List.replicate (width - record.length) "").getD i "" =
      record.getD i "" := by
  rw [List.getD_eq_getElem?_getD, List.getD_eq_getElem?_getD]
  by_cases hi : i < record.length
  · rw [List.getElem?_append_left (by rw [List.length_take]; omega), List.getElem?_take_of_lt h]
  · rw [List.getElem?_append_right (by rw [List.length_take]; omega),
      List.getElem?_replicate_of_lt (by rw [List.length_take]; omega),
      List.getElem?_eq_none (Nat.not_lt.mp hi)]
    rfl

/-- A record of the first version makes the row of the same record in the current one, with an
    empty cell behind its first one. -/
theorem row_v1 (record : List String) :
    TableFile.row .v1 record = TableFile.row .v2 (record.insertIdx 1 "") := by
  cases record with
  | nil => rfl
  | cons first rest =>
    have hold : FormatVersion.v1.columns.length = 9 := rfl
    have hnew : FormatVersion.v2.columns.length = 10 := rfl
    have hmissing : 10 - (rest.length + 1 + 1) = 9 - (rest.length + 1) := by omega
    simp only [TableFile.row, upgrade, hold, hnew, hmissing, List.insertIdx_succ_cons,
      List.insertIdx_zero, List.take_succ_cons, List.length_cons, List.cons_append,
      List.take_zero, List.drop_succ_cons, List.drop_zero, List.nil_append]

theorem cell_row_v2 (record : List String) (column : Column) :
    (TableFile.row .v2 record).cell column = record.getD (Column.all.idxOf column) "" := by
  rw [TableFile.row, AuthoredRow.cell_ofCells]
  exact getD_filled (List.idxOf_lt_length_of_mem (by cases column <;> decide)) record

theorem cell_row (version : FormatVersion) (record : List String) (column : Column) :
    (TableFile.row version record).cell column =
      if column ∈ version.columns then record.getD (version.columns.idxOf column) "" else "" := by
  cases version with
  | v2 =>
    have hmem : column ∈ FormatVersion.v2.columns := by cases column <;> decide
    rw [cell_row_v2, if_pos hmem]
    rfl
  | v1 =>
    rw [row_v1, cell_row_v2]
    cases record <;> cases column <;> rfl

/-- What a record of a version says about a row. -/
structure Describes (version : FormatVersion) (record : List String) (raw : AuthoredRow) :
    Prop where
  /-- A cell that the record has stands in its column. -/
  present : ∀ {i : Nat} {column : Column} {cell : String}, version.columns[i]? = some column →
    record[i]? = some cell → raw.cell column = cell
  /-- A column that the record does not reach is empty. -/
  missing : ∀ {i : Nat} {column : Column}, version.columns[i]? = some column →
    record[i]? = none → raw.cell column = ""
  /-- A column that the version lacks is empty. -/
  absent : ∀ column, column ∉ version.columns → raw.cell column = ""
  /-- Cells beyond the last column reach no row. -/
  within : ∀ column, raw.cell column = "" ∨
    ∃ i < version.columns.length, record[i]? = some (raw.cell column)

theorem describes_row (version : FormatVersion) (record : List String) :
    Describes version record (TableFile.row version record) := by
  have hnodup : version.columns.Nodup := by cases version <;> decide
  have hplace : ∀ {i : Nat} {column : Column}, version.columns[i]? = some column →
      (TableFile.row version record).cell column = record[i]?.getD "" := by
    intro i column hcolumn
    obtain ⟨hi, rfl⟩ := List.getElem?_eq_some_iff.mp hcolumn
    rw [cell_row, if_pos (List.getElem_mem hi), hnodup.idxOf_getElem, List.getD_eq_getElem?_getD]
  constructor
  · intro i column cell hcolumn hcell
    rw [hplace hcolumn, hcell, Option.getD_some]
  · intro i column hcolumn hcell
    rw [hplace hcolumn, hcell, Option.getD_none]
  · intro column hcolumn
    rw [cell_row, if_neg hcolumn]
  · intro column
    by_cases hcolumn : column ∈ version.columns
    · have hi := List.idxOf_lt_length_of_mem hcolumn
      rw [cell_row, if_pos hcolumn, List.getD_eq_getElem?_getD]
      cases hcell : record[version.columns.idxOf column]? with
      | none => exact .inl rfl
      | some cell => exact .inr ⟨_, hi, hcell⟩
    · exact .inl (by rw [cell_row, if_neg hcolumn])

end FormatVersion

/-! ### Files -/

namespace TableFile

open FormatVersion (Describes Heads)

/-- The bytes of a file that holds the given records. -/
def Stores (bytes : List UInt8) (records : List (List String)) : Prop :=
  Csv.records bytes = records.map fun record => record.map Csv.encode

theorem Stores.read {version : FormatVersion} {names : List String} {data : List (List String)}
    {bytes : List UInt8} (h : Stores bytes (names :: data)) (hnames : version.Heads names) :
    read bytes = .ok ⟨version, dataRows version data⟩ := by
  rw [TableFile.read, h, ofRecords_encode (FormatVersion.ofHeader?_eq_some_iff.mpr hnames)]

/-- **Old and new files load alike.** A file whose header names the columns of a version is read,
    whatever the lengths of its records are: each of them describes a row, and these rows come out
    in order except for the blank ones. In a row of the first version the repeats are empty, and
    any file of the current version that holds the same records with an empty cell behind the first
    one gives the same rows. -/
theorem read_versions_alike {version : FormatVersion} {names : List String}
    {data : List (List String)} {bytes : List UInt8} (hnames : version.Heads names)
    (hbytes : Stores bytes (names :: data)) :
    let rows := (data.map (row version)).filter (!·.isBlank)
    read bytes = .ok ⟨version, rows⟩ ∧
      (∀ record, Describes version record (row version record)) ∧
      (∀ raw ∈ rows, ∃ column, ∃ c ∈ (raw.cell column).toList, Text.isBlank c = false) ∧
      (version = .v1 → (∀ raw ∈ rows, raw.blockRepeats = "") ∧
        ∀ {newNames : List String} {new : List UInt8}, FormatVersion.v2.Heads newNames →
          Stores new (newNames :: data.map (·.insertIdx 1 "")) → read new = .ok ⟨.v2, rows⟩) := by
  intro rows
  refine ⟨hbytes.read hnames, FormatVersion.describes_row version, ?_, ?_⟩
  · intro raw hraw
    refine AuthoredRow.exists_nonblank ?_
    simpa using (List.mem_filter.mp hraw).2
  · rintro rfl
    constructor
    · intro raw hraw
      obtain ⟨record, _, rfl⟩ := List.mem_map.mp (List.mem_filter.mp hraw).1
      exact (FormatVersion.describes_row .v1 record).absent .blockRepeats (by decide)
    · intro newNames new hnewNames hnew
      have hrows : (data.map (·.insertIdx 1 "")).map (row .v2) = data.map (row .v1) := by
        rw [List.map_map]
        exact List.map_congr_left fun record _ => (FormatVersion.row_v1 record).symm
      rw [hnew.read hnewNames, dataRows, hrows]

/-! ### Records of uneven lengths -/

/-- A record with more cells than either version has, a short one, and a blank one. -/
def unevenRecords : List (List String) :=
  [["1", "Hi", "a", "NA", "a", "", "", "", "white", "left", "over"], ["2", "Fix"], ["", " "]]

/-- The rows that they make. -/
def unevenRows : List AuthoredRow :=
  [.ofCells ["1", "", "Hi", "a", "NA", "a", "", "", "", "white"], .ofCells ["2", "", "Fix"]]

/-- A header of the current version, its names in any case and with blanks around them. -/
def currentVersionHeader : List String :=
  ["Block", " block repeats", "STIMULUS", " Response ", "latency", "Correct Response",
    "Feedback Text", "Feedback Duration", "Stimulus Color", "background COLOR"]

def oldUnevenBytes : List UInt8 :=
  Csv.write ((firstVersionHeader :: unevenRecords).map fun record => record.map Csv.encode)

def newUnevenBytes : List UInt8 :=
  Csv.write ((currentVersionHeader :: unevenRecords.map (·.insertIdx 1 "")).map
    fun record => record.map Csv.encode)

theorem read_versions_alike_uneven :
    FormatVersion.v1.Heads firstVersionHeader ∧
      Stores oldUnevenBytes (firstVersionHeader :: unevenRecords) ∧
      FormatVersion.v2.Heads currentVersionHeader ∧
      Stores newUnevenBytes (currentVersionHeader :: unevenRecords.map (·.insertIdx 1 "")) ∧
      read oldUnevenBytes = .ok ⟨.v1, unevenRows⟩ ∧ read newUnevenBytes = .ok ⟨.v2, unevenRows⟩ ∧
      ∀ raw ∈ unevenRows, raw.blockRepeats = "" := by
  have hold : FormatVersion.v1.Heads firstVersionHeader :=
    FormatVersion.ofHeader?_eq_some_iff.mp (by decide)
  have hnew : FormatVersion.v2.Heads currentVersionHeader :=
    FormatVersion.ofHeader?_eq_some_iff.mp (by decide)
  have hstoresOld : Stores oldUnevenBytes (firstVersionHeader :: unevenRecords) := by
    refine records_write_of_block ?_ (by decide)
    simp only [firstVersionHeader, List.map_cons, Csv.encode_eq_flatMap]
    exact ⟨_, rfl⟩
  have hstoresNew : Stores newUnevenBytes
      (currentVersionHeader :: unevenRecords.map (·.insertIdx 1 "")) := by
    refine records_write_of_block ?_ (by decide)
    simp only [currentVersionHeader, List.map_cons, Csv.encode_eq_flatMap]
    exact ⟨_, rfl⟩
  have hrows : (unevenRecords.map (row .v1)).filter (!·.isBlank) = unevenRows := by decide
  obtain ⟨hread, _, _, halike⟩ := read_versions_alike hold hstoresOld
  obtain ⟨hrepeats, hsame⟩ := halike rfl
  rw [hrows] at hread hrepeats
  have hreadNew := hsame hnew hstoresNew
  rw [hrows] at hreadNew
  exact ⟨hold, hstoresOld, hnew, hstoresNew, hread, hreadNew, hrepeats⟩

end TableFile

end TimedTrials
