/-
  TimedTrials/Proofs/Table/RoundTrip.lean
  =======================================
  **What is written to a table file is read back.**

  A written file is a text in the current version; reading it gives the rows that are not
  blank, in order and with every cell as it was (`read_encode_write`). Blank rows are the only
  ones that writing loses, and reading returns none of them (`isBlank_of_read`), so that one
  pass through a file settles its rows and its text: `write_read_write`.
-/
import TimedTrials.Proofs.Table.Records
import TimedTrials.Proofs.Table.WrittenText

namespace TimedTrials.TableFile

/-! ### Cells -/

theorem cells?_encode (cells : List String) : cells? (cells.map Csv.encode) = some cells := by
  unfold cells?
  induction cells with
  | nil => rfl
  | cons cell cells ih =>
    rw [List.map_cons, List.mapM_cons, ih, Csv.decode?_encode]
    rfl

theorem mapM_cells?_encode (records : List (List String)) :
    (records.map fun cells => cells.map Csv.encode).mapM cells? = some records := by
  induction records with
  | nil => rfl
  | cons cells records ih =>
    rw [List.map_cons, List.mapM_cons, ih, cells?_encode]
    rfl

theorem ofRecords_encode {header : List String} {version : FormatVersion}
    (h : FormatVersion.ofHeader? header = some version) (records : List (List String)) :
    ofRecords ((header :: records).map fun cells => cells.map Csv.encode) =
      .ok ⟨version, dataRows version records⟩ := by
  rw [List.map_cons, ofRecords]
  simp only [cells?_encode, h, mapM_cells?_encode]

/-- A row with all its cells is no shorter and no longer than the current version is wide. -/
theorem row_cells (raw : AuthoredRow) : row .current raw.cells = raw := rfl

theorem dataRows_cells (rows : List AuthoredRow) :
    dataRows .current (rows.map AuthoredRow.cells) = rows.filter (!·.isBlank) := by
  have hrows : (rows.map AuthoredRow.cells).map (row .current) = rows := by
    rw [List.map_map]
    exact List.map_id'' row_cells rows
  rw [dataRows, hrows]

/-! ### Writing and reading -/

/-- What is written comes out as a text. -/
theorem encode_write (rows : List AuthoredRow) : Csv.encode (write rows) = writeBytes rows := by
  have htext : Csv.IsText (writeBytes rows) := by
    apply Csv.isText_write
    intro fields hfields field hfield
    obtain ⟨cells, _, rfl⟩ := List.mem_map.mp hfields
    obtain ⟨cell, _, rfl⟩ := List.mem_map.mp hfield
    exact ⟨cell, rfl⟩
  obtain ⟨text, hbytes⟩ := htext
  rw [write, hbytes, Csv.decode?_encode, Option.getD_some]

/-- Records that begin with the name of the block column begin with no byte order mark. -/
theorem withoutMark_of_block {header : List String} {records : List (List String)}
    (h : ∃ rest, Csv.writeRecord (header.map Csv.encode) = 0x42 :: rest) :
    Csv.withoutMark (Csv.write ((header :: records).map fun cells => cells.map Csv.encode)) =
      Csv.write ((header :: records).map fun cells => cells.map Csv.encode) := by
  obtain ⟨rest, hrest⟩ := h
  simp only [Csv.write, List.map_cons, List.flatMap_cons, hrest, List.cons_append]
  exact Csv.withoutMark_cons (by decide) _

/-- What is written is read record by record, if there is a cell in each. -/
theorem records_write_of_block {header : List String} {records : List (List String)}
    (h : ∃ rest, Csv.writeRecord (header.map Csv.encode) = 0x42 :: rest)
    (hcells : ∀ cells ∈ header :: records, cells ≠ []) :
    Csv.records (Csv.write ((header :: records).map fun cells => cells.map Csv.encode)) =
      (header :: records).map fun cells => cells.map Csv.encode := by
  apply Csv.records_write
  · intro fields hfields
    obtain ⟨cells, hmem, rfl⟩ := List.mem_map.mp hfields
    exact mt List.map_eq_nil_iff.mp (hcells cells hmem)
  · exact withoutMark_of_block h

theorem exists_writeRecord_header :
    ∃ rest, Csv.writeRecord (header.map Csv.encode) = 0x42 :: rest := by
  simp only [header, FormatVersion.current, FormatVersion.columns, Column.all, List.map_cons,
    List.map_nil, Column.header, Csv.encode_eq_flatMap]
  exact ⟨_, rfl⟩

theorem records_writeBytes (rows : List AuthoredRow) :
    Csv.records (writeBytes rows) =
      (header :: (rows.filter (!·.isBlank)).map AuthoredRow.cells).map
        fun cells => cells.map Csv.encode := by
  apply records_write_of_block exists_writeRecord_header
  refine List.forall_mem_cons.mpr ⟨List.cons_ne_nil _ _, ?_⟩
  rw [List.forall_mem_map]
  exact fun raw _ => List.cons_ne_nil _ _

theorem ofHeader?_header : FormatVersion.ofHeader? header = some .current := by decide +kernel

/-- Everything but blank rows is read back. -/
theorem read_encode_write (rows : List AuthoredRow) :
    read (Csv.encode (write rows)) = .ok ⟨.v2, rows.filter (!·.isBlank)⟩ := by
  have hkept : ∀ raw ∈ rows.filter (!·.isBlank), (!raw.isBlank) = true := by
    intro raw hraw
    exact (List.mem_filter.mp hraw).2
  have hrows : dataRows .current ((rows.filter (!·.isBlank)).map AuthoredRow.cells) =
      rows.filter (!·.isBlank) := by
    rw [dataRows_cells, List.filter_eq_self.mpr hkept]
  rw [encode_write, read, records_writeBytes, ofRecords_encode ofHeader?_header, hrows]
  rfl

/-- No row that is read is blank. -/
theorem isBlank_of_read {bytes : List UInt8} {file : TableFile} (h : read bytes = .ok file) :
    ∀ raw ∈ file.rows, raw.isBlank = false := by
  unfold read ofRecords at h
  split at h
  · cases h
  · split at h
    · cases h
    · split at h
      · cases h
      · split at h
        · cases h
        · obtain rfl := Except.ok.inj h
          intro raw hraw
          have hkept := (List.mem_filter.mp hraw).2
          simpa using hkept

/-- **Persistence.** Written rows are read back in the current version, except for blank ones:
    in their order, with all their cells as they were. Whatever file has been read, in either
    version, its rows survive being written and read again, and writing them once more gives
    the same text. -/
theorem write_read_write (rows : List AuthoredRow) (bytes : List UInt8) :
    read (Csv.encode (write rows)) = .ok ⟨.v2, rows.filter (!·.isBlank)⟩ ∧
      ∀ file, read bytes = .ok file →
        ∃ again, read (Csv.encode (write file.rows)) = .ok again ∧
          again.version = .v2 ∧ again.rows = file.rows ∧
          Csv.encode (write again.rows) = Csv.encode (write file.rows) := by
  constructor
  · exact read_encode_write rows
  · intro file hread
    have hsame : file.rows.filter (!·.isBlank) = file.rows := by
      apply List.filter_eq_self.mpr
      intro raw hraw
      simp [isBlank_of_read hread raw hraw]
    have hagain := read_encode_write file.rows
    rw [hsame] at hagain
    exact ⟨_, hagain, rfl, rfl, rfl⟩

/-- A header of the first version, its names in any case and with blanks around them. -/
def firstVersionHeader : List String :=
  ["Block", "STIMULUS", " Response ", "latency", "Correct Response", "Feedback Text",
    "Feedback Duration", "Stimulus Color", "Background Color"]

/-- Records of the first version: one that is too short, with commas, quotes and line breaks in
    its cells, and a blank one. -/
def firstVersionRecords : List (List String) :=
  [["1", "Is it \"red\",\r\n or not? ", "f,j", "NA", "f"], ["", " "]]

def firstVersionBytes : List UInt8 :=
  Csv.write ((firstVersionHeader :: firstVersionRecords).map fun cells => cells.map Csv.encode)

def firstVersionRow : AuthoredRow :=
  AuthoredRow.ofCells ["1", "", "Is it \"red\",\r\n or not? ", "f,j", "NA", "f"]

theorem write_read_write_firstVersion :
    read firstVersionBytes = .ok ⟨.v1, [firstVersionRow]⟩ ∧
      ∃ again, read (Csv.encode (write [firstVersionRow])) = .ok again ∧
        again.version = .v2 ∧ again.rows = [firstVersionRow] ∧
        Csv.encode (write again.rows) = Csv.encode (write [firstVersionRow]) := by
  have hrecords : Csv.records firstVersionBytes =
      (firstVersionHeader :: firstVersionRecords).map fun cells => cells.map Csv.encode := by
    apply Csv.records_write
    · decide
    · apply withoutMark_of_block
      simp only [firstVersionHeader, List.map_cons, Csv.encode_eq_flatMap]
      exact ⟨_, rfl⟩
  have hversion : FormatVersion.ofHeader? firstVersionHeader = some .v1 := by decide +kernel
  have hrows : dataRows .v1 firstVersionRecords = [firstVersionRow] := by decide
  have hread : read firstVersionBytes = .ok ⟨.v1, [firstVersionRow]⟩ := by
    rw [read, hrecords, ofRecords_encode hversion, hrows]
  obtain ⟨_, hagain⟩ := write_read_write [] firstVersionBytes
  exact ⟨hread, hagain ⟨.v1, [firstVersionRow]⟩ hread⟩

end TimedTrials.TableFile
