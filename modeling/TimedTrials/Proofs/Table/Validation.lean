/-
  TimedTrials/Proofs/Table/Validation.lean
  ========================================
  **What a table that comes out of validation knows about its rows.**

  Every row that is not blank has become one entry of the builder, in order (`Makes`), and the
  first entry of a block carries the repeat count that the first row of the block asks for
  (`Accepted`). One row preserves both as long as there are no problems (`Taken.take`), so that
  they hold when a table comes out (`accepted_of_validate`).
-/
import Mathlib.Data.List.Forall2
import Mathlib.Data.List.Nodup
import TimedTrials.Proofs.Table.Check
import TimedTrials.Proofs.Table.Grouping

namespace TimedTrials.Validation

/-- A row with its number, counted from one. -/
abbrev NumberedRow := Nat × AuthoredRow

/-- Whether a row belongs to the block with a number. -/
def NumberedRow.isIn (number : Int) (p : NumberedRow) : Bool := p.2.block? == some number

/-- The entry that a row is turned into. -/
structure Makes (options : ValidationOptions) (p : NumberedRow) (entry : TableEntry) : Prop where
  spec : p.2.spec? options p.1 = some entry.1
  block : p.2.block? = some entry.1.block
  row : entry.1.row = p.1

/-- The entries of rows that have no problem. -/
structure Accepted (options : ValidationOptions) (rows : List NumberedRow)
    (entries : List TableEntry) : Prop where
  makes : List.Forall₂ (Makes options) rows entries
  repeats : ∀ number p, rows.find? (NumberedRow.isIn number) = some p →
    (entries.find? (TableEntry.isIn number)).map (·.2) = some p.2.repeatsCell
  pos : ∀ entry ∈ entries, 1 ≤ entry.2

/-- What is known after exactly these rows. -/
structure Taken (options : ValidationOptions) (rows : List NumberedRow) (s : State) : Prop where
  seen : ∀ number, number ∈ s.seen ↔ ∃ p ∈ rows, p.2.block? = some number
  accepted : s.problems = [] →
    ∃ entries, Accepted options rows entries ∧ s.builder.Grouped entries

variable {options : ValidationOptions} {rows : List NumberedRow} {entries : List TableEntry}
  {s : State} {row : Nat} {raw : AuthoredRow}

/-! ### One row -/

theorem Makes.isIn {p : NumberedRow} {entry : TableEntry} (h : Makes options p entry)
    (number : Int) : TableEntry.isIn number entry = NumberedRow.isIn number p := by
  rw [TableEntry.isIn, NumberedRow.isIn, h.block, Option.some_beq_some]

/-- A block has an entry as soon as it has a row. -/
theorem find?_eq_none_of_makes (h : List.Forall₂ (Makes options) rows entries) {number : Int}
    (hnone : rows.find? (NumberedRow.isIn number) = none) :
    entries.find? (TableEntry.isIn number) = none := by
  induction h with
  | nil => rfl
  | @cons p entry _ _ hmakes _ ih =>
    rw [List.find?_cons] at hnone ⊢
    rw [hmakes.isIn]
    split at hnone
    · cases hnone
    · exact ih hnone

theorem isFirst_of_block? {number : Int} (h : raw.block? = some number) :
    s.isFirst raw = true ↔ number ∉ s.seen := by
  simp [State.isFirst, h]

theorem mem_see_iff {number : Int} :
    number ∈ s.see raw ↔ number ∈ s.seen ∨ raw.block? = some number := by
  unfold State.see
  cases raw.block? with
  | none => simp
  | some n => simp [or_comm, eq_comm]

theorem makes_of_check {first : Bool} {spec : TrialSpec} {repeats : Nat}
    (h : raw.check options first row = .ok (spec, repeats)) :
    Makes options (row, raw) (spec, repeats) where
  spec := AuthoredRow.spec?_of_check h
  block := AuthoredRow.block?_of_check h
  row := AuthoredRow.row_of_check h

theorem Accepted.append (h : Accepted options rows entries) {spec : TrialSpec} {repeats : Nat}
    {first : Bool} (hcheck : raw.check options first row = .ok (spec, repeats))
    (hfirst : rows.find? (NumberedRow.isIn spec.block) = none → first = true) :
    Accepted options (rows ++ [(row, raw)]) (entries ++ [(spec, repeats)]) := by
  have hmakes := makes_of_check hcheck
  refine ⟨List.rel_append h.makes (.cons hmakes .nil), ?_, ?_⟩
  · intro number p hfind
    rw [List.find?_append] at hfind
    cases hrows : rows.find? (NumberedRow.isIn number) with
    | some q =>
      rw [hrows, Option.some_or, Option.some.injEq] at hfind
      exact hfind ▸ TableBuilder.find?_append_of_first (h.repeats number q hrows) _
    | none =>
      -- No row before belongs to the block, so this one opens it.
      rw [hrows, Option.none_or] at hfind
      obtain rfl := List.mem_singleton.mp (List.mem_of_find?_eq_some hfind)
      have hin : TableEntry.isIn number (spec, repeats) = true :=
        (hmakes.isIn number).trans (List.find?_some hfind)
      obtain rfl : spec.block = number := eq_of_beq hin
      obtain rfl := hfirst hrows
      rw [List.find?_append, find?_eq_none_of_makes h.makes hrows, Option.none_or,
        List.find?_singleton, if_pos hin, Option.map_some, (AuthoredRow.repeats_of_check hcheck).1]
  · intro entry hentry
    rcases List.mem_append.mp hentry with hentry | hentry
    · exact h.pos entry hentry
    · obtain rfl := List.mem_singleton.mp hentry
      exact AuthoredRow.pos_of_check hcheck

theorem Taken.find?_eq_none_iff (h : Taken options rows s) {number : Int} :
    rows.find? (NumberedRow.isIn number) = none ↔ number ∉ s.seen := by
  simp only [List.find?_eq_none, NumberedRow.isIn, beq_iff_eq, h.seen, not_exists, not_and]

theorem Taken.take (h : Taken options rows s) (row : Nat) (raw : AuthoredRow) :
    Taken options (rows ++ [(row, raw)]) (s.take options row raw) := by
  have hseen : (s.take options row raw).seen = s.see raw := by
    unfold State.take
    split <;> simp only
  refine ⟨?_, ?_⟩
  · intro number
    rw [hseen, mem_see_iff, h.seen]
    simp [or_and_right, exists_or]
  · unfold State.take
    split
    · rename_i spec repeats hcheck
      intro hproblems
      obtain ⟨entries, haccepted, hgrouped⟩ := h.accepted hproblems
      refine ⟨_, haccepted.append hcheck ?_, hgrouped.push⟩
      intro hnone
      rw [isFirst_of_block? (AuthoredRow.block?_of_check hcheck)]
      exact h.find?_eq_none_iff.mp hnone
    · rename_i problems hcheck
      intro hproblems
      rw [(List.append_eq_nil_iff.mp hproblems).2] at hcheck
      exact absurd hcheck AuthoredRow.check_ne_error_nil

/-! ### All rows -/

theorem taken_start : Taken options [] State.start where
  seen number := by simp [State.start]
  accepted _ := by
    refine ⟨[], ⟨.nil, ?_, ?_⟩, TableBuilder.grouped_empty⟩
    · intro number p hfind
      cases hfind
    · intro entry hentry
      cases hentry

theorem Taken.foldl_take (h : Taken options rows s) (rest : List NumberedRow) :
    Taken options (rows ++ rest) (rest.foldl (fun s p => s.take options p.1 p.2) s) := by
  induction rest generalizing rows s with
  | nil => exact (List.append_nil rows).symm ▸ h
  | cons p rest ih =>
    rw [List.append_cons, List.foldl_cons]
    exact ih (h.take p.1 p.2)

/-- A table that comes out of validation gathers one entry for each row that carries a trial, and
    there is such a row. -/
theorem accepted_of_validate {rows : List AuthoredRow} {table : TrialTable}
    (h : validate options rows = .ok table) :
    authored rows ≠ [] ∧
      ∃ entries, Accepted options (authored rows) entries ∧ table.Gathers entries := by
  have hstart : Taken options [] State.start := taken_start
  have htaken := hstart.foldl_take (authored rows)
  simp only [validate] at h
  split at h
  · cases h
  · rename_i hsome
    split at h
    · rename_i hproblems
      obtain ⟨entries, haccepted, hgrouped⟩ := htaken.accepted (List.isEmpty_iff.mp hproblems)
      refine ⟨fun hnil => hsome (List.isEmpty_iff.mpr hnil), entries, haccepted, ?_⟩
      exact Except.ok.inj h ▸ hgrouped.build
    · cases h

/-! ### Rows and entries -/

theorem mem_authored_iff {rows : List AuthoredRow} {p : NumberedRow} :
    p ∈ authored rows ↔ ∃ i, p.1 = i + 1 ∧ rows[i]? = some p.2 ∧ p.2.isBlank = false := by
  simp only [authored, List.mem_filter, List.mem_mapIdx, Bool.not_eq_true']
  constructor
  · rintro ⟨⟨i, hi, rfl⟩, hblank⟩
    exact ⟨i, rfl, List.getElem?_eq_getElem hi, hblank⟩
  · rintro ⟨i, hrow, hraw, hblank⟩
    obtain ⟨hi, hget⟩ := List.getElem?_eq_some_iff.mp hraw
    exact ⟨⟨i, hi, Prod.ext hrow.symm hget⟩, hblank⟩

theorem nodup_authored (rows : List AuthoredRow) : ((authored rows).map (·.1)).Nodup := by
  have hnumbers : (rows.mapIdx fun i raw => (i + 1, raw)).map (·.1) = List.range' 1 rows.length := by
    refine List.ext_getElem (by simp) ?_
    intro i _ _
    simp [Nat.add_comm]
  exact (hnumbers ▸ List.nodup_range').sublist (List.filter_sublist.map _)

theorem Accepted.exists_entry (h : Accepted options rows entries) {p : NumberedRow}
    (hp : p ∈ rows) : ∃ entry ∈ entries, Makes options p entry := by
  obtain ⟨i, hi, rfl⟩ := List.getElem_of_mem hp
  have hi' : i < entries.length := h.makes.length_eq ▸ hi
  exact ⟨entries[i], List.getElem_mem hi', h.makes.get hi hi'⟩

theorem Accepted.exists_row (h : Accepted options rows entries) {entry : TableEntry}
    (hentry : entry ∈ entries) : ∃ p ∈ rows, Makes options p entry := by
  obtain ⟨i, hi', rfl⟩ := List.getElem_of_mem hentry
  have hi : i < rows.length := h.makes.length_eq ▸ hi'
  exact ⟨rows[i], List.getElem_mem hi, h.makes.get hi hi'⟩

theorem map_row_of_makes (h : List.Forall₂ (Makes options) rows entries) :
    entries.map (·.1.row) = rows.map (·.1) := by
  induction h with
  | nil => rfl
  | cons hmakes _ ih => rw [List.map_cons, List.map_cons, hmakes.row, ih]

/-- Rows with different numbers make different trials. -/
theorem Accepted.nodup (h : Accepted options rows entries) (hrows : (rows.map (·.1)).Nodup) :
    (entries.map (·.1)).Nodup := by
  have hnumbers : ((entries.map (·.1)).map (·.row)).Nodup := by
    rw [List.map_map]
    exact (map_row_of_makes h.makes).symm ▸ hrows
  exact hnumbers.of_map

end TimedTrials.Validation
