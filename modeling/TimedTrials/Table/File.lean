/-
  TimedTrials/Table/File.lean
  ===========================
  **Table files and the versions of their format.**

  The first version of the format has nine columns, the current one has the block repeats as
  its second column. The header of a file tells its version; header names compare without
  regard to ASCII case and outer blanks. Rows of the first version get an empty repeats cell,
  short rows are filled up, and cells beyond the last column are reported and left out.
  Blank rows are dropped, both when a file is read and when it is written.
-/
import TimedTrials.Log
import TimedTrials.Table.Csv
import TimedTrials.Table.Row
import TimedTrials.Text.Case
import TimedTrials.Text.Quoted

namespace TimedTrials

/-! ### Versions -/

inductive FormatVersion where
  | v1
  | v2
deriving DecidableEq, Repr

namespace FormatVersion

def current : FormatVersion := .v2

def name : FormatVersion → String
  | .v1 => "V1"
  | .v2 => "V2"

def columns : FormatVersion → List Column
  | .v1 => Column.all.filter (· != .blockRepeats)
  | .v2 => Column.all

/-- A header name compared with the name of a column. -/
def isHeader (column : Column) (found : String) : Bool :=
  Text.lowerAscii column.header == Text.lowerAscii (Text.trim found)

/-- Whether a header row names exactly the columns of a version. -/
def fits (version : FormatVersion) (header : List String) : Bool :=
  version.columns.length == header.length
    && (version.columns.zip header).all fun p => isHeader p.1 p.2

/-- The version that a header row belongs to. -/
def ofHeader? (header : List String) : Option FormatVersion :=
  [v2, v1].find? (·.fits header)

/-- The cells of a record, in the columns of the current version: exactly as many as the
    version has, with an empty repeats cell where it has none. -/
def upgrade (version : FormatVersion) (cells : List String) : List String :=
  let width := version.columns.length
  let cells := cells.take width ++ List.replicate (width - cells.length) ""
  match version with
  | .v1 => cells.take 1 ++ "" :: cells.drop 1
  | .v2 => cells

end FormatVersion

/-! ### Reading -/

inductive TableFileError where
  /-- A record that is no text. -/
  | malformed
  | missingHeader
  | headerMismatch (found : List String)
deriving DecidableEq, Repr

def TableFileError.message : TableFileError → String
  | .malformed => "malformed CSV"
  | .missingHeader => "table file has no header row"
  | .headerMismatch found =>
    "CSV headers do not match a known format: " ++ Text.quoteList found

/-- The rows of a file, and the version it was stored in. -/
structure TableFile where
  version : FormatVersion
  rows : List AuthoredRow
deriving DecidableEq, Repr

namespace TableFile

def cells? (record : List (List UInt8)) : Option (List String) := record.mapM Csv.decode?

def row (version : FormatVersion) (cells : List String) : AuthoredRow :=
  AuthoredRow.ofCells (version.upgrade cells)

def dataRows (version : FormatVersion) (records : List (List String)) : List AuthoredRow :=
  (records.map (row version)).filter (!·.isBlank)

/-- The table of a file's records: the header first, then the data. -/
def ofRecords (records : List (List (List UInt8))) : Except TableFileError TableFile :=
  match records with
  | [] => .error .missingHeader
  | header :: data =>
    match cells? header with
    | none => .error .malformed
    | some header =>
      match FormatVersion.ofHeader? header with
      | none => .error (.headerMismatch header)
      | some version =>
        match data.mapM cells? with
        | none => .error .malformed
        | some data => .ok ⟨version, dataRows version data⟩

def read (bytes : List UInt8) : Except TableFileError TableFile := ofRecords (Csv.records bytes)

/-- The report on a record, the first data record being on line two. -/
def recordLog (version : FormatVersion) (line : Nat) (cells : List String) : Log :=
  let width := version.columns.length
  if width < cells.length then
    [⟨.warn, "ignoring cells beyond the last column",
      [("line", .ofNat line), ("extra", .ofNat (cells.length - width))]⟩]
  else []

/-- What reading reports: the version, and every record that is too long, up to the first one
    that is no text. -/
def readLog (bytes : List UInt8) : Log :=
  match Csv.records bytes with
  | [] => []
  | header :: data =>
    match (cells? header).bind FormatVersion.ofHeader? with
    | none => []
    | some version =>
      let texts := (data.map cells?).takeWhile Option.isSome
      ⟨.debug, "detected table format", [("version", .text version.name)]⟩
        :: (texts.mapIdx fun i cells => recordLog version (i + 2) (cells.getD [])).flatten

/-! ### Writing -/

def header : List String := FormatVersion.current.columns.map Column.header

def writeBytes (rows : List AuthoredRow) : List UInt8 :=
  let records := header :: (rows.filter (!·.isBlank)).map AuthoredRow.cells
  Csv.write (records.map fun cells => cells.map Csv.encode)

def write (rows : List AuthoredRow) : String := (Csv.decode? (writeBytes rows)).getD ""

end TableFile

end TimedTrials
