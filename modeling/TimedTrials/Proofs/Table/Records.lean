/-
  TimedTrials/Proofs/Table/Records.lean
  =====================================
  **Records are read back as they were written.**

  Two facts carry the proof. The reader takes a field in its written form and then holds just
  the field, whether quotes had to be put around it or not (`foldl_writeField`); and from
  there a comma ends the field and a line feed the record. `records_write` puts them together
  for a whole text.

  The only form that the writer must avoid is an empty line, which the reader passes over: a
  record whose single field is empty is written with quotes.
-/
import TimedTrials.Table.Csv

namespace TimedTrials.Csv

namespace Reader

variable {r : Reader}

/-! ### Single bytes -/

/-- The reader stands where a field begins. -/
structure AtField (r : Reader) : Prop where
  field : r.field = []
  mode : r.mode = .recordStart ∨ r.mode = .fieldStart

theorem step_comma (h : r.mode ≠ .quoted) : r.step comma = r.endField := by
  have hplain : r.plainByte comma = r.endField := if_pos rfl
  have hquote : comma ≠ quote := by decide
  have hrecord : endsRecord comma = false := rfl
  cases hmode : r.mode with
  | recordStart => simp [step, hmode, hplain, hquote, hrecord]
  | fieldStart => simp [step, hmode, hplain, hquote]
  | plain => simp [step, hmode, hplain]
  | quoted => exact absurd hmode h
  | quoteSeen => simp [step, hmode, hplain, hquote]

theorem step_lineFeed (hquoted : r.mode ≠ .quoted) (hstart : r.mode ≠ .recordStart) :
    r.step lineFeed = r.endRecord := by
  have hplain : r.plainByte lineFeed = r.endRecord := rfl
  have hquote : lineFeed ≠ quote := by decide
  cases hmode : r.mode with
  | recordStart => exact absurd hmode hstart
  | fieldStart => simp [step, hmode, hplain, hquote]
  | plain => simp [step, hmode, hplain]
  | quoted => exact absurd hmode hquoted
  | quoteSeen => simp [step, hmode, hplain, hquote]

theorem step_quote (h : r.AtField) : r.step quote = { r with mode := .quoted } := by
  have hrecord : endsRecord quote = false := rfl
  rcases h.mode with hmode | hmode
  · simp [step, hmode, hrecord]
  · simp [step, hmode]

theorem plainByte_of_literal {b : UInt8} (hcomma : b ≠ comma) (hrecord : endsRecord b = false) :
    r.plainByte b = r.take .plain b := by
  simp [plainByte, hcomma, hrecord]

theorem step_of_literal {b : UInt8} (h : r.AtField) (hcomma : b ≠ comma) (hquote : b ≠ quote)
    (hrecord : endsRecord b = false) : r.step b = r.take .plain b := by
  have hplain := plainByte_of_literal (r := r) hcomma hrecord
  rcases h.mode with hmode | hmode
  · simp [step, hmode, hquote, hrecord, hplain]
  · simp [step, hmode, hquote, hplain]

/-! ### Fields -/

/-- Outside of quotes a run of bytes without a meaning is taken as it is. -/
theorem foldl_plain {bytes : List UInt8} (hmode : r.mode = .plain)
    (hplain : needsQuotes bytes = false) :
    bytes.foldl step r = { r with field := bytes.reverse ++ r.field } := by
  induction bytes generalizing r with
  | nil => rfl
  | cons b bytes ih =>
    simp only [needsQuotes, List.any_cons, Bool.or_eq_false_iff, beq_eq_false_iff_ne] at hplain
    obtain ⟨⟨⟨hcomma, _⟩, hrecord⟩, hrest⟩ := hplain
    have hstep : r.step b = r.take .plain b := by
      simp only [step, hmode]
      exact plainByte_of_literal hcomma hrecord
    rw [List.foldl_cons, hstep, ih rfl hrest]
    simp [take, hmode]

/-- Inside of quotes every byte is taken as it is, and a doubled quote is one quote. -/
theorem foldl_doubled {bytes : List UInt8} (hmode : r.mode = .quoted) :
    (doubled bytes).foldl step r = { r with field := bytes.reverse ++ r.field } := by
  induction bytes generalizing r with
  | nil => rfl
  | cons b bytes ih =>
    have hbyte : (if b = quote then [quote, quote] else [b]).foldl step r = r.take .quoted b := by
      by_cases hb : b = quote
      · subst hb
        simp [step, hmode, take]
      · simp [step, hmode, hb]
    rw [doubled, List.flatMap_cons, List.foldl_append, hbyte]
    refine (ih rfl).trans ?_
    simp [take, hmode]

/-- After the written form of a field the reader holds the field, and what comes next can end
    it. It can only still stand at the start of a record when nothing has been written. -/
theorem foldl_writeField (h : r.AtField) (field : List UInt8) :
    ∃ mode, (writeField field).foldl step r = { r with mode := mode, field := field.reverse } ∧
      mode ≠ .quoted ∧ (mode = .recordStart → r.mode = .recordStart ∧ field = []) := by
  by_cases hquotes : needsQuotes field = true
  · refine ⟨.quoteSeen, ?_, by decide, fun h => nomatch h⟩
    have hopen := step_quote h
    have hinside : (doubled field).foldl step { r with mode := .quoted } =
        { r with mode := .quoted, field := field.reverse ++ r.field } := foldl_doubled rfl
    simp only [writeField, hquotes, if_true, List.cons_append, List.foldl_cons, List.foldl_append,
      hopen, hinside, List.foldl_nil]
    simp [step, h.field]
  · have hplain : needsQuotes field = false := by simpa using hquotes
    have hwritten : writeField field = field := by simp [writeField, hplain]
    rw [hwritten]
    cases field with
    | nil =>
      refine ⟨r.mode, ?_, ?_, fun hmode => ⟨hmode, rfl⟩⟩
      · rw [List.foldl_nil, List.reverse_nil, ← h.field]
      · rcases h.mode with hmode | hmode <;> simp [hmode]
    | cons b field =>
      have hparts := hplain
      simp only [needsQuotes, List.any_cons, Bool.or_eq_false_iff, beq_eq_false_iff_ne] at hparts
      obtain ⟨⟨⟨hcomma, hquote⟩, hrecord⟩, hrest⟩ := hparts
      refine ⟨.plain, ?_, by decide, fun h => nomatch h⟩
      rw [List.foldl_cons, step_of_literal h hcomma hquote hrecord, foldl_plain rfl hrest]
      simp [take, h.field]

/-- A field with a comma behind it. -/
theorem foldl_writeField_comma (h : r.AtField) (field : List UInt8) :
    (writeField field ++ [comma]).foldl step r =
      { r with mode := .fieldStart, field := [], fields := field :: r.fields } := by
  obtain ⟨mode, hread, hquoted, _⟩ := foldl_writeField h field
  rw [List.foldl_append, hread, List.foldl_cons, List.foldl_nil, step_comma hquoted]
  simp [endField]

/-- A field with a line feed behind it; on a line of its own it must not be empty. -/
theorem foldl_writeField_lineFeed (h : r.AtField) {field : List UInt8}
    (hline : r.mode = .recordStart → field ≠ []) :
    (writeField field ++ [lineFeed]).foldl step r =
      ⟨.recordStart, [], [], (r.fields.reverse ++ [field]) :: r.records⟩ := by
  obtain ⟨mode, hread, hquoted, hstart⟩ := foldl_writeField h field
  have hmode : mode ≠ .recordStart := by
    intro hmode
    obtain ⟨hrecord, hempty⟩ := hstart hmode
    exact hline hrecord hempty
  rw [List.foldl_append, hread, List.foldl_cons, List.foldl_nil, step_lineFeed hquoted hmode]
  simp [endRecord]

/-! ### Records -/

theorem foldl_separated {fields : List (List UInt8)} (h : r.AtField) (hfields : fields ≠ [])
    (hline : r.mode = .recordStart → fields ≠ [[]]) :
    (separated (fields.map writeField) ++ [lineFeed]).foldl step r =
      ⟨.recordStart, [], [], (r.fields.reverse ++ fields) :: r.records⟩ := by
  induction fields generalizing r with
  | nil => exact absurd rfl hfields
  | cons field rest ih =>
    cases rest with
    | nil =>
      refine foldl_writeField_lineFeed h fun hmode hempty => hline hmode ?_
      rw [hempty]
    | cons next rest =>
      -- behind a comma no line is empty, whatever fields follow
      have hbegins : AtField { r with mode := .fieldStart, field := [], fields := field :: r.fields } :=
        ⟨rfl, Or.inr rfl⟩
      have hwritten : separated ((field :: next :: rest).map writeField) ++ [lineFeed] =
          (writeField field ++ [comma]) ++
            (separated ((next :: rest).map writeField) ++ [lineFeed]) := by
        simp [separated]
      rw [hwritten, List.foldl_append, foldl_writeField_comma h,
        ih hbegins (List.cons_ne_nil _ _) (fun hmode => nomatch hmode)]
      simp

/-- The reader between two records. -/
def between (records : List (List (List UInt8))) : Reader := ⟨.recordStart, [], [], records⟩

theorem foldl_writeRecord {fields : List (List UInt8)} (h : fields ≠ [])
    (records : List (List (List UInt8))) :
    (writeRecord fields).foldl step (between records) = between (fields :: records) := by
  by_cases hsingle : fields = [[]]
  · subst hsingle
    rfl
  · have hbegins : (between records).AtField := ⟨rfl, Or.inl rfl⟩
    rw [writeRecord, if_neg hsingle]
    exact foldl_separated hbegins h fun _ => hsingle

theorem foldl_write {records : List (List (List UInt8))} (h : ∀ fields ∈ records, fields ≠ [])
    (before : List (List (List UInt8))) :
    (write records).foldl step (between before) = between (records.reverse ++ before) := by
  induction records generalizing before with
  | nil => rfl
  | cons fields records ih =>
    rw [List.forall_mem_cons] at h
    rw [write, List.flatMap_cons, List.foldl_append, foldl_writeRecord h.1]
    refine (ih h.2 (fields :: before)).trans ?_
    simp

end Reader

/-! ### Whole texts -/

theorem withoutMark_cons {b : UInt8} (h : b ≠ 0xef) (bytes : List UInt8) :
    withoutMark (b :: bytes) = b :: bytes := by
  unfold withoutMark
  split
  · rename_i heq
    exact absurd (List.cons.inj heq).1 h
  · rfl

/-- **Records are read back as they were written**, if each of them has a field and the text
    does not begin with a byte order mark. -/
theorem records_write {records : List (List (List UInt8))}
    (hfields : ∀ fields ∈ records, fields ≠ [])
    (hmark : withoutMark (write records) = write records) :
    Csv.records (write records) = records := by
  have hread := Reader.foldl_write hfields []
  rw [List.append_nil] at hread
  rw [Csv.records, hmark]
  exact (congrArg Reader.finish hread).trans (List.reverse_reverse records)

end TimedTrials.Csv
